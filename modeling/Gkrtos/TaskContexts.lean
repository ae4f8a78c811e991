import Gkrtos.TaskRecords

/-! The processor and the kernel together. A task computes on its own stack until an
exception comes in; the handlers of SVC and SysTick run the kernel, and PendSV runs it and
then moves the processor from one task to another. Here the kernel is the one of this
development, started as `main` starts it, and not one of which something is assumed. -/
namespace Gkrtos
open Armv6m Stateful KernelRefinement

/-- A stack for every pid there can be. -/
structure Stacks where
  stack : Pid → Region
  disjoint : ∀ task < configMaxTasks, ∀ other < configMaxTasks, task ≠ other →
    Disjoint (stack task).cells (stack other).cells

/-- The tasks with the first pids. -/
def Stacks.upTo (regions : Stacks) (count : Pid) : TaskSet where
  pids := {task | task < count ∧ task < configMaxTasks}
  stack := regions.stack
  inTable _ member := member.2
  disjoint task member other member' := regions.disjoint task member.2 other member'.2

/-- The machine, the processor state in which each task was last switched out, and who lives. -/
structure Computer extends Switching where
  live : Finset Pid

namespace Computer

variable {regions : Stacks} {layout : Layout} {start before after computer : Computer}

def system (computer : Computer) : System := ⟨computer.machine.kernel, computer.live⟩

/-- The tasks created so far, the dead included. -/
def tasks (regions : Stacks) (computer : Computer) : TaskSet :=
  regions.upTo computer.machine.kernel.currentMaxPid

/-- Only the task that runs had its stack written. -/
def OnOwnStack (regions : Stacks) (before after : Computer) : Prop :=
  ∀ task ∈ (before.tasks regions).pids, task ≠ before.running → ∀ cell ∈ (regions.stack task).cells,
    after.machine.cpu.memory cell = before.machine.cpu.memory cell

/-- Thread code of the task that runs. -/
structure Computes (regions : Stacks) (before after : Computer) : Prop where
  kernel : after.machine.kernel = before.machine.kernel
  live : after.live = before.live
  last : after.last = before.last
  stack : OnOwnStack regions before after

section Steps

variable [PicoSdk]

/-- A run of the handler of SVC or SysTick. A task it creates gets its first frame on a stack
that was nobody's. -/
structure Serves [Malloc] (regions : Stacks) (before after : Computer) : Prop where
  handled : ∃ action : Action, ¬ action.Switches ∧ before.system.Legal action ∧
    before.system.step action = some after.system
  last : after.last = before.last
  stack : OnOwnStack regions before after

/-- A run of `isr_pendsv`, with room for a context on the stack of the task that runs and
the words of the kernel on no task's stack. -/
structure Preempts (layout : Layout) (regions : Stacks) (before after : Computer) : Prop where
  handler : before.machine.cpu.ipsr ≠ 0
  room : (regions.stack before.running).Room before.machine.cpu.psp
  mainStack : before.machine.cpu.msp - 1 ∉ (before.tasks regions).memory
  svcallStackptr :
    layout.svcallStackptr ∉ insert (before.machine.cpu.msp - 1) (before.tasks regions).memory
  ran : ∃ now now' code switched,
    Compiles layout (before.tasks regions).memory (pendsvCall now now') code ∧
    isrPendsv layout code { before.machine with kernel := before.machine.kernel.unrecorded } =
      some switched ∧
    after.machine = { switched with kernel := { switched.kernel with pendsvActive := false } }
  last : after.last = Function.update before.last before.running (some before.machine.cpu)
  live : after.live = before.live

def Step [Malloc] (layout : Layout) (regions : Stacks) (before after : Computer) : Prop :=
  Computes regions before after ∨ Serves regions before after ∨ Preempts layout regions before after

end Steps

/-! ## The tasks created so far are parked -/

/-- A task that has just been created was not switched out yet. -/
theorem isolated_grow {state : Switching} {count count' : Pid} (isolated : Isolated (regions.upTo count) state)
    (more : count ≤ count')
    (pid : ∀ task < count', (state.machine.kernel.taskList task).pid = task)
    (unborn : ∀ task, count ≤ task → state.last task = none) : Isolated (regions.upTo count') state := by
  constructor
  case running => exact ⟨Nat.lt_of_lt_of_le isolated.running.1 more, isolated.running.2⟩
  case pid => exact fun task member => pid task member.1
  case parked =>
    intro task member other cpu found
    by_cases older : task < count
    · exact isolated.parked task ⟨older, member.2⟩ other cpu found
    · rw [unborn task (Nat.not_lt.mp older)] at found
      cases found

variable [PicoSdk] [Malloc]

/-- What holds between two steps. -/
structure Sealed (regions : Stacks) (computer : Computer) : Prop where
  reachable : computer.system.Reachable System.Legal
  isolated : Isolated (computer.tasks regions) computer.toSwitching
  unborn : ∀ task, computer.machine.kernel.currentMaxPid ≤ task → computer.last task = none

/-- What every reachable state says about the task table. -/
structure Numbers (kernel : Kernel) : Prop where
  bound : kernel.currentMaxPid ≤ configMaxTasks
  pid : ∀ task < kernel.currentMaxPid, (kernel.taskList task).pid = task
  running : kernel.running < kernel.currentMaxPid
  queued : kernel.queued < kernel.currentMaxPid

theorem numbers_reachable {system : System} (reachable : system.Reachable System.Legal) :
    Numbers system.kernel := by
  obtain ⟨mask, s, ⟨sound, rfl, free, enabled, log⟩, invariant⟩ := reachable_good reachable
  have numbered := invariant.numbered
  exact ⟨numbered.bound, numbered.pids, numbered.running, numbered.queued⟩

theorem sealed_started (started : start.system.Started) (fresh : ∀ task, start.last task = none) :
    Sealed regions start := by
  have reachable : start.system.Reachable System.Legal := ⟨start.system, started, .refl⟩
  have numbers := numbers_reachable reachable
  refine ⟨reachable, ?_, fun task _ => fresh task⟩
  constructor
  case running => exact ⟨numbers.running, Nat.lt_of_lt_of_le numbers.running numbers.bound⟩
  case pid => exact fun task member => numbers.pid task member.1
  case parked =>
    intro task _ _ cpu found
    rw [fresh task] at found
    cases found

theorem Sealed.computes (isSealed : Sealed regions before) (computes : Computes regions before after) :
    Sealed regions after := by
  obtain ⟨reachable, isolated, unborn⟩ := isSealed
  obtain ⟨kernel, live, last, stack⟩ := computes
  have same : after.system = before.system := by
    rw [system, kernel, live]
    rfl
  have works : Works (before.tasks regions) before.toSwitching after.toSwitching := by
    refine ⟨last, congrArg Kernel.running kernel, stack, ?_, ?_⟩
    · rw [kernel]
      exact fun _ _ => rfl
    · rw [kernel]
      exact fun _ _ _ => rfl
  constructor
  case reachable => exact same ▸ reachable
  case isolated =>
    rw [tasks, kernel]
    exact works.isolated isolated
  case unborn =>
    rw [kernel, last]
    exact unborn

/-- The counter of pids is never set back. -/
theorem counter_step {system system' : System} {action : Action}
    (reachable : system.Reachable System.Legal) (legal : system.Legal action)
    (stepped : system.step action = some system') :
    system.kernel.currentMaxPid ≤ system'.kernel.currentMaxPid := by
  obtain ⟨mask, s, good⟩ := reachable_good reachable
  have good' := (good_step good legal stepped).1
  have later := (Scheduler.keepsBirth_step good.invariant ((legal_iff good).mp legal)).2
  have counter : system.kernel.currentMaxPid = s.maxPid := congrArg Scheduler.maxPid good.outside.shows
  have counter' : system'.kernel.currentMaxPid = (s.step action).maxPid :=
    congrArg Scheduler.maxPid good'.outside.shows
  rw [counter, counter']
  exact later

/-- A handler run other than a switch keeps what the switches rely on. -/
theorem serves_keeps {system system' : System} {action : Action}
    (reachable : system.Reachable System.Legal) (legal : system.Legal action)
    (other : ¬ action.Switches) (stepped : system.step action = some system') :
    system'.kernel.running = system.kernel.running ∧ ∀ task < system.kernel.currentMaxPid,
      (system'.kernel.taskList task).stackptr = (system.kernel.taskList task).stackptr := by
  obtain ⟨mask, s, good⟩ := reachable_good reachable
  have good' := (good_step good legal stepped).1
  obtain ⟨running, keeps⟩ := handle_keepsPointers { s with trace := [] } other
  obtain ⟨⟨sound, rfl, free, enabled, log⟩, invariant⟩ := good
  have table : system'.kernel.taskList = _ := congrArg Scheduler.table good'.outside.shows
  refine ⟨good'.running.trans running, ?_⟩
  intro task created
  rw [table]
  exact (keeps task (Nat.ne_of_lt created)).2

theorem Sealed.serves (isSealed : Sealed regions before) (serves : Serves regions before after) :
    Sealed regions after := by
  obtain ⟨reachable, isolated, unborn⟩ := isSealed
  obtain ⟨⟨action, other, legal, stepped⟩, last, stack⟩ := serves
  have reached : after.system.Reachable System.Legal := reachable.step legal stepped
  obtain ⟨running, stackptr⟩ := serves_keeps reachable legal other stepped
  have more := counter_step reachable legal stepped
  have numbers := numbers_reachable reachable
  have numbers' := numbers_reachable reached
  have works : Works (before.tasks regions) before.toSwitching after.toSwitching := by
    refine ⟨last, running, stack, ?_, fun task member _ => stackptr task member.1⟩
    intro task member
    exact (numbers'.pid task (Nat.lt_of_lt_of_le member.1 more)).trans (numbers.pid task member.1).symm
  have unborn' : ∀ task, before.machine.kernel.currentMaxPid ≤ task → after.last task = none := by
    rw [last]
    exact unborn
  constructor
  case reachable => exact reached
  case isolated => exact isolated_grow (works.isolated isolated) more numbers'.pid unborn'
  case unborn => exact fun task late => unborn' task (more.trans late)

theorem step_handled {system : System} {action : Action} {result : Word} {kernel : Kernel}
    (handled : handle action system.kernel.unrecorded = .ok result kernel) :
    system.step action = some ⟨kernel, system.liveAfter result action⟩ := by
  have run : handle action { system.kernel with trace := [], sections := [], listCalls := [] } =
    .ok result kernel := handled
  rw [System.step, run]

/-- Where `isr_pendsv` enters the kernel, and where it leaves it. -/
def entered (computer : Computer) : Switching :=
  ⟨{ computer.machine with kernel := computer.machine.kernel.unrecorded }, computer.last⟩

omit [Malloc] in
theorem Preempts.taken (preempts : Preempts layout regions before after)
    (numbers : Numbers before.machine.kernel) :
    TakesPendsv layout (before.tasks regions) before.entered.machine where
  handler := preempts.handler
  queued := ⟨numbers.queued, Nat.lt_of_lt_of_le numbers.queued numbers.bound⟩
  room := preempts.room
  mainStack := preempts.mainStack
  svcallStackptr := preempts.svcallStackptr

/-- PendSV takes the kernel where a step of the kernel takes it. -/
theorem Preempts.steps (preempts : Preempts layout regions before after)
    (numbers : Numbers before.machine.kernel) : ∃ stackptr now now',
      before.system.step (.pendsv stackptr now now') = some after.system := by
  have taken := preempts.taken numbers
  obtain ⟨now, now', code, switched, compiled, ran, machine⟩ := preempts.ran
  have running : before.machine.kernel.running < configMaxTasks :=
    Nat.lt_of_lt_of_le numbers.running numbers.bound
  obtain ⟨result, kernel, handled, -⟩ := @pendsvHandlerC_ok _ before.machine.kernel.unrecorded
    running taken.queued.2 (numbers.pid _ numbers.running) (numbers.pid _ numbers.queued)
    (address (before.machine.cpu.psp - 8)) now now'
  obtain ⟨globals, -⟩ := isrPendsv_switches compiled taken ⟨numbers.running, running⟩ handled ran
  refine ⟨address (before.machine.cpu.psp - 8), now, now', ?_⟩
  have kernel' : after.machine.kernel = { kernel with pendsvActive := false } := by
    rw [machine, globals]
  have handles : handle (.pendsv (address (before.machine.cpu.psp - 8)) now now')
      before.machine.kernel.unrecorded = .ok result after.machine.kernel := by
    rw [handle, bind_apply, handled, kernel']
    rfl
  have left : after.system = ⟨after.machine.kernel, before.live⟩ := by rw [system, preempts.live]
  rw [left]
  exact step_handled handles

/-- It finds the task it resumes as it was. -/
theorem Sealed.preempts (isSealed : Sealed regions before)
    (preempts : Preempts layout regions before after) :
    Sealed regions after ∧ ∀ cpu, after.last after.running = some cpu →
      Unchanged (regions.stack after.running) cpu after.machine.cpu := by
  obtain ⟨reachable, isolated, unborn⟩ := isSealed
  have numbers := numbers_reachable reachable
  obtain ⟨stackptr, time, time', stepped⟩ := preempts.steps numbers
  have legal : before.system.Legal (.pendsv stackptr time time') := trivial
  have reached : after.system.Reachable System.Legal := reachable.step legal stepped
  have numbers' := numbers_reachable reached
  have more := counter_step reachable legal stepped
  have unborn' : ∀ task, before.machine.kernel.currentMaxPid ≤ task → after.last task = none := by
    intro task late
    have other : task ≠ before.running := Nat.ne_of_gt (Nat.lt_of_lt_of_le numbers.running late)
    rw [preempts.last, Function.update_of_ne other]
    exact unborn task late
  have isolated' : Isolated (before.tasks regions) before.entered :=
    ⟨isolated.running, isolated.pid, isolated.parked⟩
  obtain ⟨now, now', code, switched, compiled, ran, machine⟩ := preempts.ran
  let left : Switching := ⟨switched, after.last⟩
  have switches : Switches layout (before.tasks regions) before.entered left :=
    ⟨preempts.taken numbers, preempts.last, now, now', code, compiled, ran⟩
  obtain ⟨parked, unchanged⟩ := switches.isolated isolated'
  have same : after.running = left.running := by
    rw [Switching.running, machine]
    rfl
  have cpu : after.machine.cpu = left.machine.cpu := by
    rw [machine]
  have parked' : Isolated (before.tasks regions) after.toSwitching := by
    obtain ⟨running, pid, parked⟩ := parked
    constructor
    case running => exact same ▸ running
    case pid =>
      rw [machine]
      exact pid
    case parked =>
      rw [same, machine]
      exact parked
  constructor
  · exact ⟨reached, isolated_grow parked' more numbers'.pid unborn',
      fun task late => unborn' task (more.trans late)⟩
  · rw [same, cpu]
    exact unchanged

/-- In every run of the processor and the kernel, from the start of the kernel on and
whatever the tasks ask of it, a task that gets the core again finds its registers, its stack
pointer and its stack as it left them. -/
theorem contexts_kept (started : start.system.Started) (fresh : ∀ task, start.last task = none)
    (run : Relation.ReflTransGen (Step layout regions) start before)
    (switch : Preempts layout regions before after) {cpu : Cpu}
    (switchedOut : after.last after.running = some cpu) :
    Unchanged (regions.stack after.running) cpu after.machine.cpu := by
  have isSealed : Sealed regions before := by
    clear switch
    induction run with
    | refl => exact sealed_started started fresh
    | tail _ step ih =>
      obtain computes | serves | preempts := step
      · exact ih.computes computes
      · exact ih.serves serves
      · exact (ih.preempts preempts).1
  exact (isSealed.preempts switch).2 cpu switchedOut

end Computer

section Example

open Computer

attribute [local instance] PicoSdk.reference Malloc.reference

/-- A kilobyte for each task. -/
private def kilobytes : Stacks where
  stack task := ⟨0x8000000 + task * 0x100, 0x8000000 + (task + 1) * 0x100⟩
  disjoint := by
    intro task _ other _ different
    apply Set.disjoint_left.mpr
    rintro cell ⟨low, high⟩ ⟨low', high'⟩
    simp only at low high low' high'
    omega

private def memoryLayout : Layout := Layout.reference 0x8010000

private def compiledHandler : Machine → Machine := referenceCode memoryLayout (pendsvCall 100 200)

private def mainTask : CreateTaskArgs := { SyscallArgs.zero.createTask with stackBase := 0x20000c00 }

/-- The kernel as `main` leaves it, with one task besides the spin task. -/
@[irreducible] private def begunKernel : Kernel :=
  match launch 0 0x20000800 [mainTask] 0 Kernel.initial with
  | .ok _ kernel => kernel
  | .error _ kernel => kernel

private def spinCpu : Cpu where
  reg register := if register = .lr then 0xFFFFFFFD else 7
  pc := 0x10000300
  flags := 0
  ipsr := 14
  msp := 0x8020000
  psp := 0x80001f0
  spsel := false
  memory _ := 5

private def begunComputer : Computer := ⟨⟨⟨spinCpu, begunKernel⟩, fun _ => none⟩, {1, 2}⟩

/-- A handler run, after which the registers are these. -/
private def serve (reg : Reg → Value) (psp : Cell) (action : Action) (computer : Computer) : Computer :=
  let system := (computer.system.step action).getD computer.system
  ⟨⟨⟨{ spinCpu with reg, psp, memory := computer.machine.cpu.memory }, system.kernel⟩, computer.last⟩,
    system.live⟩

/-- The running task yields, and PendSV is taken. -/
private def yieldWith (reg : Reg → Value) (psp : Cell) (computer : Computer) : Computer :=
  serve reg psp .takePendsv (serve reg psp (.svc 0 syscallYield .zero 10) computer)

private def preempt (computer : Computer) : Computer :=
  let switched := (isrPendsv memoryLayout compiledHandler computer.entered.machine).getD computer.machine
  ⟨⟨{ switched with kernel := { switched.kernel with pendsvActive := false } },
    Function.update computer.last computer.running (some computer.machine.cpu)⟩, computer.live⟩

private def yieldedComputer : Computer := yieldWith spinCpu.reg spinCpu.psp begunComputer

private def busyReg (register : Reg) : Value := if register = .lr then 0xFFFFFFFD else 9

/-- Task 2 has got the core, and it has yielded too. -/
private def yieldedAgain : Computer :=
  yieldWith busyReg 0x80002e0 (preempt yieldedComputer)

private theorem begunKernel_eq {pids : List Word} {kernel : Kernel}
    (launched : launch 0 0x20000800 [mainTask] 0 Kernel.initial = .ok pids kernel) :
    begunKernel = kernel := by
  rw [begunKernel, launched]

private theorem begun_live : (atStart 0 0x20000800 [mainTask] 0).1 = {1, 2} := by decide +kernel

private theorem begun_started : begunComputer.system.Started := by
  obtain ⟨pids, kernel, launched, -, live⟩ := launch_returns 0 0x20000800 [mainTask] 0 (by decide)
  rw [begun_live] at live
  rw [← begunKernel_eq launched] at launched
  exact ⟨0, 0x20000800, [mainTask], 0, pids, by decide, launched, live.symm⟩

private theorem serves_serve (reg : Reg → Value) (psp : Cell) {action : Action} {computer : Computer}
    (other : ¬ action.Switches) (legal : computer.system.Legal action)
    (returns : (computer.system.step action).isSome) :
    Serves kilobytes computer (serve reg psp action computer) := by
  refine ⟨⟨action, other, legal, ?_⟩, rfl, fun _ _ _ _ _ => rfl⟩
  obtain ⟨next, stepped⟩ := Option.isSome_iff_exists.mp returns
  show computer.system.step action = some ((computer.system.step action).getD computer.system)
  rw [stepped]
  rfl

private theorem outside_kilobytes {computer : Computer} {cell : Cell} (above : 0x8008000 ≤ cell.toNat) :
    cell ∉ (computer.tasks kilobytes).memory := by
  rintro ⟨task, ⟨-, inTable⟩, -, high⟩
  have last : (task + 1) * 0x100 ≤ 128 * 0x100 := Nat.mul_le_mul_right _ inTable
  have low : cell.toNat < 0x8000000 + 128 * 0x100 := Nat.lt_of_lt_of_le high (Nat.add_le_add_left last _)
  exact Nat.not_lt.mpr above low

private theorem preempts_preempt {computer : Computer} (handler : computer.machine.cpu.ipsr ≠ 0)
    (room : (kilobytes.stack computer.running).Room computer.machine.cpu.psp)
    (msp : computer.machine.cpu.msp = 0x8020000)
    (returns : (isrPendsv memoryLayout compiledHandler computer.entered.machine).isSome) :
    Preempts memoryLayout kilobytes computer (preempt computer) := by
  have mainStack : computer.machine.cpu.msp - 1 ∉ (computer.tasks kilobytes).memory := by
    rw [msp]
    exact outside_kilobytes (by decide)
  refine ⟨handler, room, mainStack, ?_, ?_, rfl, rfl⟩
  · rintro (same | inside)
    · rw [msp] at same
      exact absurd same (by decide)
    · exact outside_kilobytes (by decide) inside
  · obtain ⟨switched, run⟩ := Option.isSome_iff_exists.mp returns
    have compiled := referenceCode_compiles memoryLayout (computer.tasks kilobytes).memory
      (pendsvCall 100 200)
    refine ⟨100, 200, compiledHandler, switched, compiled, run, ?_⟩
    rw [preempt, run]
    rfl

private theorem legal_yield (computer : Computer) :
    computer.system.Legal (.svc 0 syscallYield .zero 10) :=
  .inl rfl

/-- The two handler runs of a yield. -/
private theorem steps_yieldWith {reg : Reg → Value} {psp : Cell} {computer : Computer}
    (yields : (computer.system.step (.svc 0 syscallYield .zero 10)).isSome)
    (taken : ((serve reg psp (.svc 0 syscallYield .zero 10) computer).system.step .takePendsv).isSome) :
    Relation.ReflTransGen (Step memoryLayout kilobytes) computer (yieldWith reg psp computer) := by
  have called := serves_serve reg psp id (legal_yield computer) yields
  have legal : (serve reg psp (.svc 0 syscallYield .zero 10) computer).system.Legal .takePendsv := trivial
  have took := serves_serve reg psp id legal taken
  exact .tail (.single (.inr (.inl called))) (.inr (.inl took))

private theorem begun_yields : (begunComputer.system.step (.svc 0 syscallYield .zero 10)).isSome ∧
    ((serve spinCpu.reg spinCpu.psp (.svc 0 syscallYield .zero 10) begunComputer).system.step
      .takePendsv).isSome := by
  decide +kernel

private theorem yielded_preempted : yieldedComputer.running = 1 ∧
    (isrPendsv memoryLayout compiledHandler yieldedComputer.entered.machine).isSome := by
  decide +kernel

private theorem away_yields :
    ((preempt yieldedComputer).system.step (.svc 0 syscallYield .zero 10)).isSome ∧
    ((serve busyReg 0x80002e0 (.svc 0 syscallYield .zero 10) (preempt yieldedComputer)).system.step
      .takePendsv).isSome := by
  decide +kernel

private theorem again_preempted : yieldedAgain.running = 2 ∧ (preempt yieldedAgain).running = 1 ∧
    (isrPendsv memoryLayout compiledHandler yieldedAgain.entered.machine).isSome := by
  decide +kernel

/-- The spin task gets the core back after task 2 had it. -/
theorem contexts_kept_example :
    Unchanged (kilobytes.stack 1) yieldedComputer.machine.cpu (preempt yieldedAgain).machine.cpu := by
  obtain ⟨runsFirst, preempted⟩ := yielded_preempted
  obtain ⟨runsSecond, runsAgain, preemptedAgain⟩ := again_preempted
  have yields : Relation.ReflTransGen (Step memoryLayout kilobytes) begunComputer yieldedComputer :=
    steps_yieldWith begun_yields.1 begun_yields.2
  have roomFirst : (kilobytes.stack yieldedComputer.running).Room yieldedComputer.machine.cpu.psp := by
    rw [runsFirst]
    exact ⟨by decide, by decide⟩
  have leaves : Preempts memoryLayout kilobytes yieldedComputer (preempt yieldedComputer) :=
    preempts_preempt (by decide) roomFirst rfl preempted
  have yieldsAgain : Relation.ReflTransGen (Step memoryLayout kilobytes) (preempt yieldedComputer)
      yieldedAgain :=
    steps_yieldWith away_yields.1 away_yields.2
  have roomSecond : (kilobytes.stack yieldedAgain.running).Room yieldedAgain.machine.cpu.psp := by
    rw [runsSecond]
    exact ⟨by decide, by decide⟩
  have comesBack : Preempts memoryLayout kilobytes yieldedAgain (preempt yieldedAgain) :=
    preempts_preempt (by decide) roomSecond rfl preemptedAgain
  have noted : (preempt yieldedAgain).last (preempt yieldedAgain).running =
      some yieldedComputer.machine.cpu := by
    have second : (preempt yieldedAgain).last = Function.update (preempt yieldedComputer).last
      yieldedAgain.running (some yieldedAgain.machine.cpu) := rfl
    have first : (preempt yieldedComputer).last = Function.update yieldedComputer.last
      yieldedComputer.running (some yieldedComputer.machine.cpu) := rfl
    rw [runsAgain, second, first, runsSecond, runsFirst]
    rfl
  have unchanged := contexts_kept begun_started (fun _ => rfl)
    ((yields.tail (.inr (.inr leaves))).trans yieldsAgain) comesBack noted
  rw [runsAgain] at unchanged
  exact unchanged

end Example

end Gkrtos
