import Gkrtos.KernelWalk
import Gkrtos.Runs

/-! The data-structure critical section. The functions that are called with the
section held do not touch it, their wrappers enter it once and leave it once,
and the handlers call one wrapper after the other. The exception is
`gkrtos_tasking_schedule_next_tick_task`, which enters the section and then
calls two of these wrappers: it waits forever for itself. None of this depends
on what is in the queues. -/
namespace Gkrtos.CriticalSections
open Stateful KernelRefinement

variable {α : Type}

/-- The section, and the record of entries and exits. -/
def lock (kernel : Kernel) : CriticalSection × List SectionEvent :=
  (kernel.criticalSection, kernel.sections)

/-- The program leaves the section and its record alone, and waits for nothing. -/
abbrev Untouched (program : KernelM α) : Prop := Keeps (· ≠ .blockedForever) lock program

/-- The section is free, and every entry has had its exit. -/
def Free (kernel : Kernel) : Prop := kernel.criticalSection.held = false ∧ Bracketed kernel.sections

/-- The section is held, and the last entry has not had its exit. -/
def Held (kernel : Kernel) : Prop :=
  ∃ save log, Bracketed log ∧ lock kernel = (⟨true, save⟩, log ++ [.entered])

/-- The program waits for nothing on the way from the one to the other. -/
abbrev Leads (before : Kernel → Prop) (program : KernelM α) (after : Kernel → Prop) : Prop :=
  Triple (· ≠ .blockedForever) before program (fun _ => True) after

theorem free_kept {program : KernelM α} (untouched : Untouched program) :
    Leads Free program Free := by
  apply untouched.triple
  rintro kernel kernel' same ⟨free, bracketed⟩
  obtain ⟨sameSection, sameLog⟩ : kernel'.criticalSection = kernel.criticalSection ∧
      kernel'.sections = kernel.sections := Prod.mk.inj same
  exact ⟨sameSection ▸ free, sameLog ▸ bracketed⟩

theorem held_kept {program : KernelM α} (untouched : Untouched program) :
    Leads Held program Held := by
  apply untouched.triple
  rintro kernel kernel' same ⟨save, log, bracketed, held⟩
  exact ⟨save, log, bracketed, same.trans held⟩

private theorem besideTasks : BesideTasks (· ≠ .blockedForever) lock :=
  ⟨fun _ _ => rfl, fun _ _ => rfl, fun _ _ => rfl, fun _ _ => rfl, fun _ _ => rfl,
    Fault.noConfusion⟩

section Functions

variable [PicoSdk]

theorem enter_leads : Leads Free criticalSectionDataStructuresEnterBlocking Held := by
  rintro kernel ⟨free, bracketed⟩
  rw [enter_run free]
  exact ⟨trivial, kernel.primask, kernel.sections, bracketed, rfl⟩

theorem exit_leads : Leads Held criticalSectionDataStructuresExit Free := by
  rintro kernel ⟨save, log, bracketed, held⟩
  obtain ⟨-, record⟩ : _ ∧ kernel.sections = log ++ [.entered] := Prod.mk.inj held
  rw [exit_run]
  refine ⟨trivial, rfl, ?_⟩
  rw [record]
  exact .use bracketed

variable [Malloc]

/-- The functions that are called with the section held leave it alone, whatever is in the
queues. -/
theorem lock_steps : CallSteps (· ≠ .blockedForever) Free Held Held Free := by
  have beside : BesideLists (· ≠ .blockedForever) Held :=
    ⟨fun _ _ held => held, fun _ _ held => held, fun _ => Fault.noConfusion, Fault.noConfusion⟩
  exact {
    toQueueSteps := beside.steps
    setDeadline := fun task _ => held_kept (keeps_storeTask besideTasks task _)
    observe := fun event => held_kept (keeps_observe besideTasks event)
    enter := enter_leads
    leave := exit_leads
    request := fun _ _ held => held
    leaveAsked := exit_leads
    mark := fun pid => free_kept (keeps_storeTask besideTasks pid _)
    idle := fun _ free => free }

theorem kill_leads (pid : Pid) (now : AbsoluteTime) :
    Leads Free (internalSyscallKill pid now) Free :=
  lock_steps.kill pid now

theorem syscall_leads {number : Word} (task : TaskPtr) (args : SyscallArgs) (now : AbsoluteTime)
    (other : number ≠ syscallTaskNextTick) :
    Leads Free (internalSyscall task number args now) Free := by
  apply lock_steps.internalSyscall
  · have stored (task : TaskPtr) (change : Task → Task) : Leads Free (storeTask task change) Free :=
      free_kept (keeps_storeTask besideTasks task change)
    exact fun _ => lock_steps.createTask_kept stored (fun _ _ held => held) _ _
  · exact fun nextTick => absurd nextTick other

/-! ## Exception handlers -/

/-- The call that enters the section and calls functions that enter it. -/
def SchedulesNextTick : Action → Prop
  | .svc _ syscall _ _ => syscall = syscallTaskNextTick
  | _ => False

theorem handle_leads {action : Action} (other : ¬ SchedulesNextTick action) :
    Leads Free (handle action) Free := by
  cases action with
  | svc stackptr number args now =>
    apply triple_svcall
    · exact fun kernel free => (syscall_leads kernel.running args now other).at free
    · exact fun _ free => free
  | systick stackptr now now' now'' => exact lock_steps.systick stackptr now now' now''
  | takePendsv =>
    exact free_kept (keeps_write (fun _ => rfl) (keeps_pure 0))
  | pendsv stackptr now now' =>
    apply free_kept
    apply keeps_bind (keeps_pendsv besideTasks stackptr now now')
    intro newSp
    exact keeps_write (fun _ => rfl) (keeps_pure newSp)

/-- The second entry waits for the first. -/
theorem taskNextTick_blocks (kernel : Kernel) (free : kernel.criticalSection.held = false)
    (task : TaskPtr) (args : SyscallArgs) (now : AbsoluteTime) :
    ∃ kernel', internalSyscall task syscallTaskNextTick args now kernel =
      .error .blockedForever kernel' := by
  have call : internalSyscall task syscallTaskNextTick args now =
      internalSyscallTaskNextTick args.pid now args.itemsAsTasks := rfl
  simp [call, internalSyscallTaskNextTick, taskingScheduleNextTickTask, taskingDequeueTask,
    enter_run free, enter_blocks]

theorem handle_nextTick (kernel : Kernel) (action : Action)
    (free : kernel.criticalSection.held = false) (nextTick : SchedulesNextTick action) :
    ∃ kernel', handle action kernel = .error .blockedForever kernel' := by
  cases action with
  | svc stackptr number args now =>
    obtain rfl : number = syscallTaskNextTick := nextTick
    obtain ⟨kernel', blocked⟩ := taskNextTick_blocks kernel free
      (kernel.cores kernel.cpuid).currentlyRunningPid args now
    exact ⟨kernel', by simp [handle, svcallHandler, taskingGetCurrentTask, blocked]⟩
  | systick stackptr now now' now'' => exact absurd nextTick id
  | takePendsv => exact absurd nextTick id
  | pendsv stackptr now now' => exact absurd nextTick id

/-- How a handler run uses the section: it does not wait for itself, and when it
returns every exit has matched an entry and the section is free. -/
def UsedProperly : EStateM.Result Fault Kernel Word → Prop
  | .ok _ kernel => kernel.criticalSection.held = false ∧ Bracketed kernel.sections
  | .error fault _ => fault ≠ .blockedForever

theorem used_properly_iff (kernel : Kernel) (free : kernel.criticalSection.held = false)
    (action : Action) : UsedProperly (handle action { kernel with sections := [] }) ↔
      ¬ SchedulesNextTick action := by
  constructor
  · intro proper nextTick
    obtain ⟨kernel', blocked⟩ := handle_nextTick { kernel with sections := [] } action free nextTick
    rw [blocked] at proper
    exact proper rfl
  · intro other
    have start : Free { kernel with sections := [] } := ⟨free, .nil⟩
    cases run : handle action { kernel with sections := [] } with
    | ok result kernel' => exact ((handle_leads other).ok start run).2
    | error fault kernel' => exact (handle_leads other).error start run

end Functions

section Example

attribute [local instance] PicoSdk.reference Malloc.reference

/-- Seven milliseconds after the start SysTick finds that the spin task has run for
long enough, and switches to the other task. -/
private def firstTick : Action := .systick 0 7000 7000 7000

/-- How the section was used in it. -/
private def sectionsOfFirstTick : Option (List SectionEvent) :=
  match launch 0 0 [SyscallArgs.zero.createTask] 0 Kernel.initial with
  | .ok _ kernel => match handle firstTick kernel.unrecorded with
    | .ok _ kernel' => some kernel'.sections
    | .error _ _ => none
  | .error _ _ => none

private theorem sectionsOfFirstTick_eq : sectionsOfFirstTick =
    some [.entered, .exited, .entered, .exited, .entered, .exited] := by decide +kernel

theorem used_properly_iff_example : ∃ system next : System, system.Started ∧
    system.step (.systick 0 7000 7000 7000) = some next ∧
      next.kernel.sections = [.entered, .exited, .entered, .exited, .entered, .exited] ∧
        next.kernel.criticalSection.held = false ∧ Bracketed next.kernel.sections := by
  obtain ⟨pids, kernel, launched, outside, live⟩ :=
    launch_returns 0 0 [SyscallArgs.zero.createTask] 0 (by decide)
  have used := sectionsOfFirstTick_eq
  have proper := (used_properly_iff kernel.unrecorded outside.free firstTick).mpr id
  have same : ({ kernel.unrecorded with sections := [] } : Kernel) = kernel.unrecorded := rfl
  rw [same] at proper
  simp only [sectionsOfFirstTick, launched] at used
  cases run : handle firstTick kernel.unrecorded with
  | error fault after => simp [run] at used
  | ok result after =>
    rw [run] at proper
    simp only [run, Option.some.injEq] at used
    let system : System := ⟨kernel, insert 1 (pids.map BitVec.toNat).toFinset⟩
    have stepped : system.step firstTick = some ⟨after, system.liveAfter result firstTick⟩ := by
      change handle firstTick { kernel with trace := [], sections := [], listCalls := [] } = _ at run
      rw [System.step, run]
    exact ⟨system, _, ⟨0, 0, [SyscallArgs.zero.createTask], 0, pids, by decide, launched, rfl⟩,
      stepped, used, proper⟩

/-- The spin task, just started, schedules the next tick for itself. -/
theorem next_tick_blocks : ∃ system : System, system.Started ∧
    system.kernel.criticalSection.held = false ∧ 1 ∈ system.live ∧
      ¬ UsedProperly (handle (.svc 0 syscallTaskNextTick { SyscallArgs.zero with pid := 1 } 100)
        { system.kernel with sections := [] }) := by
  obtain ⟨pids, kernel, launched, outside, live⟩ := launch_returns 0 0 [] 0 (by decide)
  refine ⟨⟨kernel, _⟩, ⟨0, 0, [], 0, pids, by decide, launched, rfl⟩, outside.free, by simp, ?_⟩
  intro proper
  obtain ⟨kernel', blocked⟩ := handle_nextTick { kernel with sections := [] }
    (.svc 0 syscallTaskNextTick { SyscallArgs.zero with pid := 1 } 100) outside.free rfl
  rw [blocked] at proper
  exact proper rfl

end Example

end Gkrtos.CriticalSections
