import Mathlib.Data.Set.Lattice
import Mathlib.Logic.Relation
import Mathlib.Order.CompletePartialOrder
import Gkrtos.Runs
import Gkrtos.Machine

/-! Context switches between any number of tasks. Between two of them the running
task does what it likes with the registers and with its own stack, and the
kernel may queue another task. A task that is switched out is parked: its
context lies right below its stack pointer, which the task table knows, and
nobody else writes there, so that it finds everything again when it is resumed. -/
namespace Gkrtos

open Armv6m KernelRefinement

/-- The words of a task's stack, from `bottom` up to `top`. -/
structure Region where
  bottom : Nat
  top : Nat

def Region.cells (region : Region) : Set Cell :=
  {cell | region.bottom ≤ cell.toNat ∧ cell.toNat < region.top}

/-- The stack pointer is in the region, with 32 free bytes below it. -/
def Region.Room (region : Region) (psp : Cell) : Prop :=
  region.bottom + 8 ≤ psp.toNat ∧ psp.toNat ≤ region.top

/-- Tasks with disjoint stacks. -/
structure TaskSet where
  pids : Set Pid
  stack : Pid → Region
  inTable : ∀ task ∈ pids, task < configMaxTasks
  disjoint : ∀ task ∈ pids, ∀ other ∈ pids, task ≠ other →
    Disjoint (stack task).cells (stack other).cells

def TaskSet.memory (tasks : TaskSet) : Set Cell :=
  {cell | ∃ task ∈ tasks.pids, cell ∈ (tasks.stack task).cells}

section Region

variable {region : Region} {psp cell : Cell}

theorem Region.Room.saved (room : region.Room psp) (inside : cell ∈ Span (psp - 8) 8) :
    cell ∈ region.cells ∧ cell.toNat < psp.toNat := by
  obtain ⟨low, high⟩ := room
  simp only [Span, Region.cells, Set.mem_ofPred_eq] at inside ⊢
  bv_omega

end Region

/-! ## The PendSV handler -/

/-- `isr_pendsv` up to its exception return. -/
def isrPendsv (layout : Layout) (handler : Machine → Machine) (machine : Machine) :
    Option Machine := do
  let called ← runAt layout.isrPendsv (isrPendsvEntry layout) machine.cpu
  let returned := handler { machine with cpu := called }
  let cpu ← runAt (layout.isrPendsv + codeSize (isrPendsvEntry layout)) isrPendsvExit returned.cpu
  return { returned with cpu }

@[simp] theorem stopped_stackptr (stackptr : Word) (now : AbsoluteTime) (task : Task) :
    (Scheduler.stopped stackptr now task).stackptr = stackptr := by
  unfold Scheduler.stopped
  split <;> rfl

@[simp] theorem stopped_pid (stackptr : Word) (now : AbsoluteTime) (task : Task) :
    (Scheduler.stopped stackptr now task).pid = task.pid := by
  unfold Scheduler.stopped
  split <;> rfl

/-- A switch from `current` to `next` in the task table. -/
theorem switched_table {table stored : TaskPtr → Task} {current next : TaskPtr} {stackptr : Word}
    {now now' : AbsoluteTime}
    (written : stored = Function.update table current (Scheduler.stopped stackptr now (table current)))
    (task : TaskPtr) :
    (task ≠ next →
      (Function.update stored next (Scheduler.resumed now' (stored next)) task).stackptr =
        if task = current then stackptr else (table task).stackptr) ∧
      (Function.update stored next (Scheduler.resumed now' (stored next)) task).pid =
        (table task).pid := by
  have storedPid : (stored task).pid = (table task).pid := by
    rw [written]
    by_cases same : task = current
    · rw [same, Function.update_self, stopped_pid]
    · rw [Function.update_of_ne same]
  constructor
  · intro different
    rw [Function.update_of_ne different, written]
    split
    case isTrue same => rw [same, Function.update_self, stopped_stackptr]
    case isFalse same => rw [Function.update_of_ne same]
  · rw [← storedPid]
    by_cases same : task = next
    · rw [same, Function.update_self]
      rfl
    · rw [Function.update_of_ne same]

section Handler

variable [PicoSdk]

/-- `gkrtos_pendsv_handler_c` with its argument in `r0`. -/
def pendsvCall (now now' : AbsoluteTime) (cpu : Cpu) : KernelM Word :=
  pendsvHandlerC (cpu.reg .r0) now now'

/-- What the C handler does to the task table and to the core. -/
structure SwitchesTask (kernel : Kernel) (stackptr result : Word) (kernel' : Kernel) : Prop where
  running : kernel'.running = kernel.queued
  result : result = if kernel.queued = kernel.running then stackptr
    else (kernel.taskList kernel.queued).stackptr
  stackptr : ∀ task ≠ kernel.queued, (kernel'.taskList task).stackptr =
    if task = kernel.running then stackptr else (kernel.taskList task).stackptr
  pid : ∀ task, (kernel'.taskList task).pid = (kernel.taskList task).pid

theorem pendsvHandlerC_ok {kernel : Kernel} (running : kernel.running < configMaxTasks)
    (queued : kernel.queued < configMaxTasks)
    (runningPid : (kernel.taskList kernel.running).pid = kernel.running)
    (queuedPid : (kernel.taskList kernel.queued).pid = kernel.queued)
    (stackptr : Word) (now now' : AbsoluteTime) :
    ∃ result kernel', pendsvHandlerC stackptr now now' kernel = .ok result kernel' ∧
      SwitchesTask kernel stackptr result kernel' := by
  by_cases same : kernel.queued = kernel.running
  · have found : kernel.queued = (kernel.taskList kernel.running).pid := same.trans runningPid.symm
    refine ⟨_, _, pendsvHandlerC_stay running found, ?_⟩
    constructor
    case running => exact same.symm
    case result => rw [if_pos same]
    case stackptr =>
      intro task different
      rw [if_neg (same ▸ different)]
    case pid => exact fun task => rfl
  · have different : kernel.queued ≠ (kernel.taskList kernel.running).pid := by
      rw [runningPid]
      exact same
    have run := @pendsvHandlerC_switch kernel _ stackptr now now' running queued different _ rfl
    refine ⟨_, _, run, ?_⟩
    constructor
    case running =>
      rw [Function.update_of_ne same]
      simp [Kernel.running, queuedPid]
    case result => rw [if_neg same, Function.update_of_ne same]
    case stackptr => exact fun task => (switched_table rfl task).1
    case pid => exact fun task => (switched_table rfl task).2

/-- PendSV has been taken from a task that has 32 free bytes below its stack
pointer. The main stack and the variables of the kernel lie elsewhere. -/
structure TakesPendsv (layout : Layout) (tasks : TaskSet) (machine : Machine) : Prop where
  handler : machine.cpu.ipsr ≠ 0
  queued : machine.kernel.queued ∈ tasks.pids
  room : (tasks.stack machine.kernel.running).Room machine.cpu.psp
  mainStack : machine.cpu.msp - 1 ∉ tasks.memory
  svcallStackptr : layout.svcallStackptr ∉ insert (machine.cpu.msp - 1) tasks.memory

/-- What `isr_pendsv` does when the C handler returns the address of `cell`: it
saves one context and loads another, and `pop {pc}` will find EXC_RETURN. -/
structure SwitchesContext (tasks : TaskSet) (before : Cpu) (cell : Cell) (after : Cpu) : Prop where
  restored : context after = loadAll after.memory cell 8
  psp : after.psp = cell + 8
  link : after.memory after.msp = before.reg .lr
  memory : ∀ other ∈ tasks.memory,
    after.memory other = storeAll before.memory (before.psp - 8) (context before) other

variable {layout : Layout} {tasks : TaskSet} {handler : Machine → Machine}
variable {machine after : Machine} {now now' : AbsoluteTime}

theorem isrPendsv_switches (compiled : Compiles layout tasks.memory (pendsvCall now now') handler)
    (taken : TakesPendsv layout tasks machine) (running : machine.kernel.running ∈ tasks.pids)
    {result : Word} {kernel : Kernel}
    (handled : pendsvHandlerC (address (machine.cpu.psp - 8)) now now' machine.kernel =
      .ok result kernel)
    (run : isrPendsv layout handler machine = some after) :
    after.kernel = kernel ∧ ∃ cell, result = address cell ∧
      SwitchesContext tasks machine.cpu cell after.cpu := by
  obtain ⟨called, entry, run⟩ := Option.bind_eq_some_iff.mp run
  obtain ⟨final, exit, run⟩ := Option.bind_eq_some_iff.mp run
  obtain ⟨saved, reached, entered, pushes, calls⟩ := @isrPendsvEntry_exec layout _ taken.handler
  obtain rfl : called = reached := Option.some.inj ((runAt_eq_some.mp entry).2.symm.trans entered)
  let request : Machine := { machine with cpu := called }
  have callMsp : called.msp = machine.cpu.msp - 1 := calls.msp.trans pushes.msp
  have asked : pendsvCall now now' called request.kernel = .ok result kernel := by
    rw [pendsvCall, calls.stackptr, pushes.pointer]
    exact handled
  have away : layout.svcallStackptr ∉ insert request.cpu.msp tasks.memory := by
    show layout.svcallStackptr ∉ insert called.msp tasks.memory
    rw [callMsp]
    exact taken.svcallStackptr
  have answer := compiled request result kernel away asked
  obtain ⟨cell, pointer, restores⟩ := isrPendsvExit_restores (runAt_eq_some.mp exit).2
  obtain rfl : { handler request with cpu := final } = after := Option.some.inj run
  refine ⟨answer.globals, cell, answer.result.symm.trans pointer, ?_⟩
  have kept : ∀ other ∈ insert (machine.cpu.msp - 1) tasks.memory,
      final.memory other = saved.memory other := by
    intro other inside
    rw [← callMsp] at inside
    rw [restores.memory, answer.returned.memory other inside, ← calls.memory]
  have notSaved : machine.cpu.msp - 1 ∉ Span (machine.cpu.psp - 8) 8 := by
    intro inside
    exact taken.mainStack ⟨_, running, (taken.room.saved inside).1⟩
  constructor
  case restored => exact restores.restored
  case psp => exact restores.psp
  case link =>
    have msp : final.msp = machine.cpu.msp - 1 := by
      rw [restores.msp, answer.returned.msp, ← callMsp]
    show final.memory final.msp = machine.cpu.reg .lr
    rw [msp, kept _ (.inl rfl), pushes.link notSaved]
  case memory =>
    intro other inside
    have notLink : other ≠ machine.cpu.msp - 1 := by
      rintro rfl
      exact taken.mainStack inside
    show final.memory other = _
    have apart : machine.cpu.msp - 1 ∉ Span (machine.cpu.psp - 8) (context machine.cpu).length :=
      notSaved
    rw [kept other (.inr inside), pushes.memory, ← update_storeAll apart,
      Function.update_of_ne notLink]

end Handler

/-! ## Parked tasks -/

/-- A task finds its registers, its stack pointer and its stack as they were. -/
structure Unchanged (region : Region) (before after : Cpu) : Prop where
  registers : ∀ register ∈ contextRegs, after.reg register = before.reg register
  psp : after.psp = before.psp
  stack : ∀ cell ∈ region.cells, before.psp.toNat ≤ cell.toNat →
    after.memory cell = before.memory cell

/-- A task that was switched out in this state can be resumed from `pointer`. -/
structure Parked (region : Region) (cpu : Cpu) (pointer : Word) (memory : Memory) : Prop where
  room : region.Room cpu.psp
  pointer : pointer = address (cpu.psp - 8)
  saved : Holds memory (cpu.psp - 8) (context cpu)
  stack : ∀ cell ∈ region.cells, cpu.psp.toNat ≤ cell.toNat → memory cell = cpu.memory cell

section Parked

variable {region : Region} {cpu after : Cpu} {pointer : Word} {memory memory' : Memory}

/-- It stays parked while nobody writes to its stack. -/
theorem Parked.congr (parked : Parked region cpu pointer memory)
    (same : ∀ cell ∈ region.cells, memory' cell = memory cell) : Parked region cpu pointer memory' := by
  constructor
  case room => exact parked.room
  case pointer => exact parked.pointer
  case saved =>
    apply parked.saved.congr (show (context cpu).length = 8 from rfl)
    exact fun cell inside => same cell (parked.room.saved inside).1
  case stack => exact fun cell inside above => (same cell inside).trans (parked.stack cell inside above)

/-- Saving the context parks a task. -/
theorem parked_of_saved (room : region.Room cpu.psp) : Parked region cpu (address (cpu.psp - 8))
    (storeAll cpu.memory (cpu.psp - 8) (context cpu)) := by
  constructor
  case room => exact room
  case pointer => rfl
  case saved => exact holds_storeAll (show 8 ≤ 2 ^ 30 by decide)
  case stack =>
    intro cell _ above
    apply storeAll_outside
    intro below
    exact Nat.not_lt.mpr above (room.saved below).2

/-- Loading the context resumes it. -/
theorem Parked.resumes {tasks : TaskSet} {before : Cpu} {cell : Cell}
    (parked : Parked region cpu (address cell) after.memory)
    (switches : SwitchesContext tasks before cell after) : Unchanged region cpu after := by
  have place : cell = cpu.psp - 8 := address_injective parked.pointer
  subst place
  constructor
  case registers =>
    apply context_eq_iff.mp
    rw [switches.restored]
    exact parked.saved
  case psp => rw [switches.psp, BitVec.sub_add_cancel]
  case stack => exact parked.stack

end Parked

/-! ## Runs -/

/-- The machine, and for every task the processor state in which it was last
switched out. -/
structure Switching where
  machine : Machine
  last : Pid → Option Cpu

def Switching.running (state : Switching) : Pid := state.machine.kernel.running

/-- Between two switches the running task changes registers and its own stack,
and the kernel anything but which task runs, the pids of the tasks and the
stack pointers it has saved. -/
structure Works (tasks : TaskSet) (before after : Switching) : Prop where
  last : after.last = before.last
  running : after.running = before.running
  stack : ∀ task ∈ tasks.pids, task ≠ before.running → ∀ cell ∈ (tasks.stack task).cells,
    after.machine.cpu.memory cell = before.machine.cpu.memory cell
  pid : ∀ task ∈ tasks.pids,
    (after.machine.kernel.taskList task).pid = (before.machine.kernel.taskList task).pid
  stackptr : ∀ task ∈ tasks.pids, before.last task ≠ none →
    (after.machine.kernel.taskList task).stackptr = (before.machine.kernel.taskList task).stackptr

/-- PendSV is taken, and the state of the task that ran is noted. -/
def Switches [PicoSdk] (layout : Layout) (tasks : TaskSet) (before after : Switching) : Prop :=
  TakesPendsv layout tasks before.machine ∧
    after.last = Function.update before.last before.running (some before.machine.cpu) ∧
    ∃ now now' handler, Compiles layout tasks.memory (pendsvCall now now') handler ∧
      isrPendsv layout handler before.machine = some after.machine

/-- One of the tasks runs and none was switched out yet. -/
structure FirstTask (tasks : TaskSet) (state : Switching) : Prop where
  running : state.running ∈ tasks.pids
  pid : ∀ task ∈ tasks.pids, (state.machine.kernel.taskList task).pid = task
  last : ∀ task, state.last task = none

/-- Every task but the running one is parked where it was last switched out. -/
structure Isolated (tasks : TaskSet) (state : Switching) : Prop where
  running : state.running ∈ tasks.pids
  pid : ∀ task ∈ tasks.pids, (state.machine.kernel.taskList task).pid = task
  parked : ∀ task ∈ tasks.pids, task ≠ state.running → ∀ cpu, state.last task = some cpu →
    Parked (tasks.stack task) cpu (state.machine.kernel.taskList task).stackptr
      state.machine.cpu.memory

section Isolation

variable {layout : Layout} {tasks : TaskSet} {before after start state : Switching}

theorem FirstTask.isolated (first : FirstTask tasks state) : Isolated tasks state := by
  refine ⟨first.running, first.pid, ?_⟩
  intro task _ _ cpu found
  rw [first.last task] at found
  cases found

theorem Works.isolated (works : Works tasks before after) (isolated : Isolated tasks before) :
    Isolated tasks after := by
  constructor
  case running =>
    rw [works.running]
    exact isolated.running
  case pid => exact fun task member => (works.pid task member).trans (isolated.pid task member)
  case parked =>
    intro task member other cpu found
    rw [works.running] at other
    rw [works.last] at found
    have noted : before.last task ≠ none := by
      rw [found]
      exact Option.some_ne_none cpu
    rw [works.stackptr task member noted]
    apply (isolated.parked task member other cpu found).congr
    exact works.stack task member other

/-- Between saving one context and loading another, every task is parked, the
one that ran at the words that were just written. -/
theorem parked_between (isolated : Isolated tasks before)
    (taken : TakesPendsv layout tasks before.machine) {cell : Cell}
    (switches : SwitchesContext tasks before.machine.cpu cell after.machine.cpu)
    (last : after.last = Function.update before.last before.running (some before.machine.cpu))
    {task : Pid} (member : task ∈ tasks.pids) {cpu : Cpu} (found : after.last task = some cpu) :
    Parked (tasks.stack task) cpu
      (if task = before.running then address (before.machine.cpu.psp - 8)
        else (before.machine.kernel.taskList task).stackptr) after.machine.cpu.memory := by
  have written : ∀ other ∈ (tasks.stack task).cells, after.machine.cpu.memory other =
      storeAll before.machine.cpu.memory (before.machine.cpu.psp - 8) (context before.machine.cpu)
        other :=
    fun other inside => switches.memory other ⟨task, member, inside⟩
  rw [last] at found
  by_cases ran : task = before.running
  · subst ran
    rw [Function.update_self] at found
    obtain rfl := Option.some.inj found
    rw [if_pos rfl]
    exact (parked_of_saved taken.room).congr written
  · rw [Function.update_of_ne ran] at found
    rw [if_neg ran]
    apply (isolated.parked task member ran cpu found).congr
    intro other inside
    have apart : other ∉ Span (before.machine.cpu.psp - 8) (context before.machine.cpu).length := by
      intro overwritten
      exact Set.disjoint_left.mp (tasks.disjoint task member _ isolated.running ran) inside
        (taken.room.saved overwritten).1
    rw [written other inside, storeAll_outside apart]

variable [PicoSdk]

/-- A switch keeps tasks isolated, and the task it resumes finds everything as
it left it. -/
theorem Switches.isolated (switches : Switches layout tasks before after)
    (isolated : Isolated tasks before) : Isolated tasks after ∧
      ∀ cpu, after.last after.running = some cpu →
        Unchanged (tasks.stack after.running) cpu after.machine.cpu := by
  obtain ⟨taken, last, now, now', handler, compiled, run⟩ := switches
  have running := isolated.running
  obtain ⟨result, kernel, handled, switched⟩ := pendsvHandlerC_ok
    (tasks.inTable _ running) (tasks.inTable _ taken.queued)
    (isolated.pid _ running) (isolated.pid _ taken.queued) _ now now'
  obtain ⟨globals, cell, pointer, changes⟩ := isrPendsv_switches compiled taken running handled run
  have resumed : after.running = before.machine.kernel.queued := by
    rw [Switching.running, globals, switched.running]
  constructor
  · constructor
    case running =>
      rw [resumed]
      exact taken.queued
    case pid =>
      intro task member
      rw [globals, switched.pid]
      exact isolated.pid task member
    case parked =>
      intro task member other cpu found
      rw [resumed] at other
      rw [globals, switched.stackptr task other]
      exact parked_between isolated taken changes last member found
  · intro cpu found
    have member : after.running ∈ tasks.pids := by
      rw [resumed]
      exact taken.queued
    have parked := parked_between isolated taken changes last member found
    apply Parked.resumes _ changes
    rw [← pointer, switched.result]
    rw [resumed] at parked ⊢
    exact parked

/-- In every run of any number of switches, with anything the tasks do to their
own registers and stacks in between, every task is resumed with the registers,
the stack pointer and the stack with which it was last switched out. -/
theorem context_isolation (first : FirstTask tasks start)
    (run : Relation.ReflTransGen
      (fun state state' => Works tasks state state' ∨ Switches layout tasks state state') start before)
    (switch : Switches layout tasks before after) {cpu : Cpu}
    (switchedOut : after.last after.running = some cpu) :
    Unchanged (tasks.stack after.running) cpu after.machine.cpu := by
  have isolated : Isolated tasks before := by
    clear switch
    induction run with
    | refl => exact first.isolated
    | tail _ step ih =>
      cases step with
      | inl works => exact works.isolated ih
      | inr switches => exact (switches.isolated ih).1
  exact (switch.isolated isolated).2 cpu switchedOut

end Isolation

section Between

/-! ## What the kernel does between two switches -/

/-- The entries of all tasks keep their pids and saved stack pointers. -/
def KeepsPointers (s s' : Scheduler) : Prop :=
  ∀ task ≠ s.maxPid, (s'.table task).pid = (s.table task).pid ∧
    (s'.table task).stackptr = (s.table task).stackptr

theorem keepsPointers_change {s : Scheduler} {change : Task → Task} (task : TaskPtr)
    (same : ∀ record, (change record).pid = record.pid ∧ (change record).stackptr = record.stackptr) :
    KeepsPointers s (s.change task change) := by
  intro other _
  rw [Scheduler.change_table]
  split
  case isTrue equal =>
    subst equal
    exact same _
  case isFalse => exact ⟨rfl, rfl⟩

theorem KeepsPointers.trans {s s' s'' : Scheduler} (first : KeepsPointers s s')
    (second : KeepsPointers s' s'') (same : s'.maxPid = s.maxPid) : KeepsPointers s s'' := by
  intro task other
  obtain ⟨pid, stackptr⟩ := second task (same ▸ other)
  exact ⟨pid.trans (first task other).1, stackptr.trans (first task other).2⟩

/-- Queue operations do not write the table. -/
theorem KeepsPointers.of_table {s s' s'' : Scheduler} (keeps : KeepsPointers s s')
    (table : s''.table = s'.table) : KeepsPointers s s'' := by
  unfold KeepsPointers
  rw [table]
  exact keeps

variable [PicoSdk]

theorem keepsPointers_select (s : Scheduler) (now : AbsoluteTime) : KeepsPointers s (s.select now) := by
  cases due : s.due now with
  | none =>
    rw [Scheduler.select_idle due]
    exact fun _ _ => ⟨rfl, rfl⟩
  | some first =>
    have woken : KeepsPointers s (s.setDeadline first nilTime) :=
      keepsPointers_change first fun _ => ⟨rfl, rfl⟩
    rw [Scheduler.select_due due]
    exact woken

theorem keepsPointers_yield (s : Scheduler) (now : AbsoluteTime) : KeepsPointers s (s.yield now) :=
  keepsPointers_select s now

theorem keepsPointers_postpone (s : Scheduler) (task : TaskPtr) (deadline : AbsoluteTime)
    (read : ItemsAsTasks) :
    KeepsPointers s (s.postpone task deadline read) := by
  have removed : KeepsPointers s (s.dequeue task) := by
    intro other _
    rw [(Scheduler.dequeue_fields s task).1]
    exact ⟨rfl, rfl⟩
  have written : KeepsPointers (s.dequeue task) ((s.dequeue task).setDeadline task deadline) :=
    keepsPointers_change task fun _ => ⟨rfl, rfl⟩
  apply (removed.trans written (Scheduler.dequeue_fields s task).2.1).of_table
  exact (Scheduler.enqueue_fields _ task read).1

theorem keepsPointers_kill (s : Scheduler) (victim : Pid) (now : AbsoluteTime) :
    KeepsPointers s (s.kill victim now) := by
  have completed : KeepsPointers s (s.complete victim) :=
    keepsPointers_change victim fun _ => ⟨rfl, rfl⟩
  have selected := completed.trans (keepsPointers_select _ now) rfl
  apply selected.of_table
  exact (Scheduler.dequeue_fields _ victim).1

theorem keepsPointers_createTask (s : Scheduler) (args : CreateTaskArgs) (read : ItemsAsTasks) :
    KeepsPointers s (s.createTask args read) := by
  intro task other
  have table : (s.createTask args read).table = _ := (Scheduler.enqueue_fields _ s.maxPid read).1
  rw [table, Scheduler.change_table, if_neg other]
  exact ⟨rfl, rfl⟩

/-- A handler run other than a switch keeps the running task. -/
theorem handle_keepsPointers (s : Scheduler) {action : Action} (other : ¬ action.Switches) :
    (s.handle action).running = s.running ∧ KeepsPointers s (s.handle action) := by
  cases action with
  | pendsv stackptr now now' => exact absurd trivial other
  | takePendsv => exact ⟨rfl, fun _ _ => ⟨rfl, rfl⟩⟩
  | systick stackptr now now' now'' =>
    rw [Scheduler.handle, Scheduler.systick]
    split
    case isTrue => exact ⟨by simp, keepsPointers_yield s now''⟩
    case isFalse => exact ⟨rfl, fun _ _ => ⟨rfl, rfl⟩⟩
  | svc stackptr number args now =>
    rw [Scheduler.handle, Scheduler.syscall]
    split
    case isTrue => exact ⟨by simp, keepsPointers_kill s _ now⟩
    split
    case isTrue => exact ⟨by simp, keepsPointers_yield s now⟩
    split
    case isTrue => exact ⟨by simp, keepsPointers_kill s _ now⟩
    split
    case isTrue =>
      have postponed := keepsPointers_postpone s s.running args.milliseconds args.itemsAsTasks
      have maxPid := (Scheduler.postpone_fields s s.running args.milliseconds args.itemsAsTasks).1
      exact ⟨by simp [Scheduler.sleepUntil], postponed.trans (keepsPointers_yield _ now) maxPid⟩
    split
    case isTrue => exact ⟨by simp, keepsPointers_createTask s args.createTask args.itemsAsTasks⟩
    case isFalse => exact ⟨rfl, fun _ _ => ⟨rfl, rfl⟩⟩

/-- In every reachable state, a handler other than PendSV does to the task that
runs and to the saved stack pointers only what `Works` allows. -/
theorem handler_keepsPointers [Malloc] {system system' : System} {action : Action}
    (reachable : system.Reachable System.Legal) (legal : system.Legal action)
    (other : ¬ action.Switches) (stepped : system.step action = some system') :
    system'.kernel.running = system.kernel.running ∧ ∀ task ∈ system.live,
      (system'.kernel.taskList task).pid = (system.kernel.taskList task).pid ∧
      (system'.kernel.taskList task).stackptr = (system.kernel.taskList task).stackptr := by
  obtain ⟨mask, s, good⟩ := reachable_good reachable
  obtain ⟨next, run, good', -⟩ := step_simulates good legal
  obtain rfl : next = system' := Option.some.inj (run.symm.trans stepped)
  obtain ⟨running, keeps⟩ := handle_keepsPointers { s with trace := [] } other
  have shows : view system.kernel = s := good.outside.shows
  have shows' : view next.kernel = s.step action := good'.outside.shows
  have sameRunning : (view next.kernel).running = (view system.kernel).running := by
    rw [shows', shows]
    exact running
  refine ⟨sameRunning, ?_⟩
  intro task alive
  have created : task < s.maxPid := good.invariant.numbered.created task alive
  have table : next.kernel.taskList = (s.step action).table := congrArg Scheduler.table shows'
  have table' : system.kernel.taskList = s.table := congrArg Scheduler.table shows
  rw [table, table']
  exact keeps task (Nat.ne_of_lt created)

end Between

section Example

attribute [local instance] PicoSdk.reference Malloc.reference

private def twoTasks : TaskSet where
  pids := {1, 2}
  stack task := if task = 1 then ⟨0x8000000, 0x8000100⟩ else ⟨0x8000100, 0x8000200⟩
  inTable := by
    rintro task (rfl | rfl)
    · decide
    · decide
  disjoint := by
    rintro task (rfl | rfl) other (rfl | rfl) different
    · exact absurd rfl different
    · apply Set.disjoint_left.mpr
      rintro cell ⟨-, low⟩ ⟨high, -⟩
      exact Nat.not_lt.mpr high low
    · apply Set.disjoint_left.mpr
      rintro cell ⟨high, -⟩ ⟨-, low⟩
      exact Nat.not_lt.mpr high low
    · exact absurd rfl different

private def switchLayout : Layout := Layout.reference 0x8010000

private def handlerCode : Machine → Machine := referenceCode switchLayout (pendsvCall 100 200)

/-- Task 1 is interrupted with task 2 queued, which was created but never ran. -/
private def interrupted : Machine where
  cpu := {
    reg := fun register => if register = .lr then 0xFFFFFFFD else 7
    pc := 0x10000300
    flags := 0
    ipsr := 14
    msp := 0x8020000
    psp := 0x80000f0
    spsel := false
    memory := fun _ => 5 }
  kernel := { Kernel.initial with
    taskList := fun task => { Task.zero with pid := task, stackptr := 0x200007c0 }
    cores := fun _ => ⟨1, 2⟩ }

/-- Task 2 runs. -/
private def resumedOther : Machine := (isrPendsv switchLayout handlerCode interrupted).getD interrupted

/-- It has changed its registers when PendSV is taken with task 1 queued. -/
private def interruptedAgain : Machine where
  cpu := { resumedOther.cpu with
    reg := fun register => if register = .lr then 0xFFFFFFFD else 9
    pc := 0x10000300
    psp := 0x80001e0
    msp := 0x8020000
    ipsr := 14 }
  kernel := { resumedOther.kernel with
    cores := fun _ => ⟨2, 1⟩ }

private def resumedFirst : Machine :=
  (isrPendsv switchLayout handlerCode interruptedAgain).getD interruptedAgain

private theorem switch_some {machine after : Machine}
    (computed : after = (isrPendsv switchLayout handlerCode machine).getD machine)
    (completes : (isrPendsv switchLayout handlerCode machine).isSome = true) :
    isrPendsv switchLayout handlerCode machine = some after := by
  obtain ⟨final, run⟩ := Option.isSome_iff_exists.mp completes
  rw [computed, run, Option.getD_some]

private theorem outside_twoTasks {cell : Cell} (above : 0x8000200 ≤ cell.toNat) :
    cell ∉ twoTasks.memory := by
  rintro ⟨task, rfl | rfl, -, low⟩
  · exact Nat.not_lt.mpr above (Nat.lt_trans low (by decide))
  · exact Nat.not_lt.mpr above low

private theorem svcallStackptr_outside :
    switchLayout.svcallStackptr ∉ insert (0x8020000 - 1) twoTasks.memory := by
  rintro (same | inside)
  · exact absurd same (by decide)
  · exact outside_twoTasks (by decide) inside

private theorem interrupted_takes : TakesPendsv switchLayout twoTasks interrupted := by
  constructor
  case handler => decide
  case queued => exact .inr rfl
  case room => exact ⟨by decide, by decide⟩
  case mainStack => exact outside_twoTasks (by decide)
  case svcallStackptr => exact svcallStackptr_outside

private theorem interruptedAgain_takes : TakesPendsv switchLayout twoTasks interruptedAgain := by
  constructor
  case handler => decide
  case queued => exact .inl rfl
  case room => exact ⟨by decide, by decide⟩
  case mainStack => exact outside_twoTasks (by decide)
  case svcallStackptr => exact svcallStackptr_outside

/-- Task 1 gets the core back after task 2 had it. -/
theorem context_isolation_example :
    Unchanged (twoTasks.stack 1) interrupted.cpu resumedFirst.cpu := by
  have completes : (isrPendsv switchLayout handlerCode interrupted).isSome = true := by
    decide +kernel
  have completesAgain : (isrPendsv switchLayout handlerCode interruptedAgain).isSome = true := by
    decide +kernel
  have runningOther : resumedOther.kernel.running = 2 := by decide +kernel
  have runningFirst : resumedFirst.kernel.running = 1 := by decide +kernel
  have away : isrPendsv switchLayout handlerCode interrupted = some resumedOther :=
    switch_some rfl completes
  have back : isrPendsv switchLayout handlerCode interruptedAgain = some resumedFirst :=
    switch_some rfl completesAgain
  let start : Switching := ⟨interrupted, fun _ => none⟩
  let other : Switching := ⟨resumedOther, Function.update start.last 1 (some interrupted.cpu)⟩
  let before : Switching := ⟨interruptedAgain, other.last⟩
  let after : Switching := ⟨resumedFirst, Function.update before.last 2 (some interruptedAgain.cpu)⟩
  have first : FirstTask twoTasks start := ⟨.inl rfl, fun _ _ => rfl, fun _ => rfl⟩
  have compiled := referenceCode_compiles switchLayout twoTasks.memory (pendsvCall 100 200)
  have switchAway : Switches switchLayout twoTasks start other :=
    ⟨interrupted_takes, rfl, 100, 200, handlerCode, compiled, away⟩
  have works : Works twoTasks other before :=
    ⟨rfl, runningOther.symm, fun _ _ _ _ _ => rfl, fun _ _ => rfl, fun _ _ _ => rfl⟩
  have switchBack : Switches switchLayout twoTasks before after :=
    ⟨interruptedAgain_takes, rfl, 100, 200, handlerCode, compiled, back⟩
  have noted : after.last after.running = some interrupted.cpu := by
    show after.last resumedFirst.kernel.running = _
    rw [runningFirst]
    rfl
  have unchanged := context_isolation first
    (.tail (.tail .refl (.inr switchAway)) (.inl works)) switchBack noted
  have resumed : after.running = 1 := runningFirst
  rw [resumed] at unchanged
  exact unchanged

end Example

end Gkrtos
