import Gkrtos.CriticalSections
import Gkrtos.QueueIntegrity
import Gkrtos.SyscallResults

/-! The two system calls that take the pid of another task, and what they do with
one that names no live task. There is an error number for this and neither call
returns it. KILL marks the entry of the table and looks for the task in a queue
it is not in. The lookup finds nothing, and nothing is what it then removes: with
an entry in that queue a NULL pointer is dereferenced, and only with the queue
empty does the call return, with success. TASK_NEXT_TICK waits for itself before
it looks at any queue. -/
namespace Gkrtos.PidChecks
open Stateful ListRefinement KernelRefinement CriticalSections QueueIntegrity Scheduler

variable {mask : InterruptMask} {kernel kernel' : Kernel} {s : Scheduler} {task : TaskPtr}
variable {system : System} {now : AbsoluteTime}

/-- The call returned the error number for a missing task, and the task table,
the queues, the slot and the request for a switch are as before. -/
structure RejectsPid (kernel : Kernel) (value : Word) (kernel' : Kernel) : Prop where
  error : value = syscallErrnoPidDoesNotExist ∨ value = -syscallErrnoPidDoesNotExist
  taskList : kernel'.taskList = kernel.taskList
  scheduled : kernel'.scheduled = kernel.scheduled
  unscheduled : kernel'.unscheduled = kernel.unscheduled
  queued : kernel'.queued = kernel.queued
  pending : kernel'.pendsvPending = kernel.pendsvPending

/-- The call returns, and it returned so. -/
def Rejects (kernel : Kernel) (call : KernelM Word) : Prop :=
  ∃ value kernel', call kernel = .ok value kernel' ∧ RejectsPid kernel value kernel'

section Calls

variable [PicoSdk]

omit [PicoSdk] in
theorem removed_from {queue : ListPtr} {item : Addr} {lists lists' : ListStore TaskPtr}
    (wellFormed : WellFormed kernel.lists) (valid : queue < kernel.lists.lists)
    (found : listGetItemWithData queue task kernel.lists = .ok item lists)
    (removed : listRemove queue item lists = .ok () lists') :
    task ∈ contents kernel.lists queue ∨ contents kernel.lists queue = [] := by
  have run : listRemoveData queue task kernel.lists = .ok () lists' := by
    simp [listRemoveData, found, removed]
  have spec := listRemoveData_spec task wellFormed valid
  split_ifs at spec with member empty
  · exact .inl member
  · exact .inr empty
  · cases run.symm.trans spec

/-- What is removed was in the queue, or the queue was empty. -/
theorem dequeued_from (outside : Outside mask kernel s) {result : Result}
    (run : taskingDequeueTask task kernel = .ok result kernel') :
    task ∈ (if s.deadline task = nilTime then s.ring else s.sleepers) ∨
      (if s.deadline task = nilTime then s.ring else s.sleepers) = [] := by
  obtain ⟨between, entry, entered⟩ := enterBlocking_simulates kernel s outside trivial
  have inside : Inside mask between s := entered
  obtain ⟨_, _, enter, work⟩ := bind_ok.mp run
  cases entry.symm.trans enter
  obtain ⟨done, _, dequeue, -⟩ := bind_ok.mp work
  obtain ⟨record, _, load, search⟩ := bind_ok.mp dequeue
  obtain ⟨-, rfl, rfl⟩ := loadTask_ok load
  obtain ⟨found, _, got, look⟩ := bind_ok.mp search
  obtain ⟨rfl, rfl⟩ := get_ok got
  obtain ⟨item, _, looked, removal⟩ := bind_ok.mp look
  obtain ⟨lists, located, rfl⟩ := onLists_ok looked
  obtain ⟨lists', listCalls, removed, rfl⟩ := queueRemove_ok removal
  have scheduled := isScheduledTask_eq inside task
  by_cases awake : s.deadline task = nilTime
  · rw [if_pos awake, ← inside.ring]
    simp only [scheduled, awake, ne_eq, not_true_eq_false, decide_false, Bool.false_eq_true,
      if_false] at located removed
    exact removed_from inside.sound.heap inside.sound.unscheduled located removed
  · rw [if_neg awake, ← inside.sleepers]
    simp only [scheduled, awake, ne_eq, not_false_eq_true, decide_true, if_true] at located removed
    exact removed_from inside.sound.heap inside.sound.scheduled located removed

variable [Malloc]

omit [Malloc] in
/-- A pid that is in no queue, after a task was chosen, leaves the scheduled queue
to be the empty one. -/
theorem missing_pid {live : Finset Pid} {pid : Pid} (invariant : Invariant live s)
    (bad : pid ∉ live) (removed :
      pid ∈ (if ((s.complete pid).select now).deadline pid = nilTime
        then ((s.complete pid).select now).ring else ((s.complete pid).select now).sleepers) ∨
      (if ((s.complete pid).select now).deadline pid = nilTime
        then ((s.complete pid).select now).ring else ((s.complete pid).select now).sleepers) = []) :
    s.deadline pid ≠ nilTime ∧ (s.select now).sleepers = [] := by
  have completed : Placed live (s.complete pid) := placed_change _ invariant.placed fun _ => rfl
  have placed := placed_select now completed
  have sameTime : (s.complete pid).deadline = s.deadline := by simp
  have notDue : (s.complete pid).due now ≠ some pid := by
    intro due
    have member := List.mem_of_head? (due_eq_some.mp due).1
    exact bad (completed.mem_sleepers.mp member).1
  have deadline : ((s.complete pid).select now).deadline pid = s.deadline pid := by
    rw [select_deadline, if_neg notDue, sameTime]
  have spins : 1 ∈ ((s.complete pid).select now).ring := by
    apply placed.mem_ring.mpr
    refine ⟨invariant.spin, ?_⟩
    rw [select_deadline, sameTime, invariant.awake]
    exact ite_self _
  have sleepers : ((s.complete pid).select now).sleepers = (s.select now).sleepers := by
    have sameDue := (s.complete_choice pid now).1
    cases due : s.due now with
    | none =>
      rw [select_idle due, select_idle (sameDue.trans due)]
      rfl
    | some first =>
      rw [select_due due, select_due (sameDue.trans due)]
      rfl
  rw [deadline, sleepers] at removed
  by_cases awake : s.deadline pid = nilTime
  · rw [if_pos awake] at removed
    cases removed with
    | inl member => exact absurd (placed.mem_ring.mp member).1 bad
    | inr empty => exact absurd spins (empty ▸ List.not_mem_nil)
  · rw [if_neg awake, ← sleepers] at removed
    cases removed with
    | inl member => exact absurd (placed.mem_sleepers.mp member).1 bad
    | inr empty => exact ⟨awake, sleepers ▸ empty⟩

/-- A kill of a task that is not live ends in a fault, or it finds the scheduled
queue empty and reports success. -/
theorem kill_bad_pid {live : Finset Pid} {pid : Pid} (outside : Outside mask kernel s)
    (invariant : Invariant live s) (bad : pid ∉ live) (now : AbsoluteTime) :
    (∃ fault kernel', internalSyscallKill pid now kernel = .error fault kernel' ∧
        fault ≠ .blockedForever) ∨
      ∃ kernel', internalSyscallKill pid now kernel = .ok syscallErrnoSuccess kernel' ∧
        pid < configMaxTasks ∧ s.deadline pid ≠ nilTime ∧ (s.select now).sleepers = [] := by
  cases run : internalSyscallKill pid now kernel with
  | error fault kernel' =>
    have led := kill_leads pid now kernel ⟨outside.free, outside.log.1⟩
    rw [run] at led
    exact .inl ⟨fault, kernel', rfl, led⟩
  | ok value kernel' =>
    obtain ⟨_, _, mark, choosing⟩ := bind_ok.mp run
    obtain ⟨next, _, choice, removing⟩ := bind_ok.mp choosing
    obtain ⟨_, _, removal, switching⟩ := bind_ok.mp removing
    obtain ⟨_, _, -, returning⟩ := bind_ok.mp switching
    injection returning with success final
    subst success final
    have inTable := (storeTask_ok mark).1
    have marked := storeTask_outside pid (fun task => { task with taskStatus := .complete }) kernel s
      outside inTable
    obtain ⟨kernel₁, mark', outside₁⟩ := marked
    cases mark.symm.trans mark'
    have completed : Outside mask _ (s.complete pid) := outside₁
    have ready : (s.complete pid).Choosable now ∧
        ∀ first ∈ (s.complete pid).sleepers, first < configMaxTasks :=
      ⟨fun _ => List.ne_nil_of_mem invariant.spin_mem_ring,
        fun first member => sleepers_inTable invariant first member⟩
    obtain ⟨kernel₂, choice', outside₂⟩ := getNextTask_simulates now _ _ completed ready
    cases choice.symm.trans choice'
    exact .inr ⟨_, rfl, inTable, missing_pid invariant bad (dequeued_from outside₂ removal)⟩

/-- In every reachable state, a pid that names no live task is rejected by neither
call. -/
theorem bad_pid_not_rejected (reachable : system.Reachable System.Legal) {args : SyscallArgs}
    (bad : args.pid ∉ system.live) (stackptr : Word) (now : AbsoluteTime) :
    ¬ Rejects system.kernel (handle (.svc stackptr syscallKill args now)) ∧
      ¬ Rejects system.kernel (handle (.svc stackptr syscallTaskNextTick args now)) := by
  obtain ⟨mask, s, outside, invariant⟩ := reachable_good reachable
  constructor
  · rintro ⟨value, kernel', run, rejects⟩
    obtain ⟨current, _, loaded, call⟩ := bind_ok.mp run
    cases (loaded : EStateM.Result.ok system.kernel.running system.kernel = _)
    obtain ⟨result, between, killed, noted⟩ := bind_ok.mp call
    cases noted
    have kill : internalSyscallKill args.pid now system.kernel = .ok value between := killed
    rcases kill_bad_pid outside invariant bad now with ⟨fault, _, stops, -⟩ | ⟨_, succeeds, -⟩
    · cases kill.symm.trans stops
    · cases kill.symm.trans succeeds
      exact absurd rejects.error (by decide)
  · rintro ⟨value, kernel', run, -⟩
    obtain ⟨blocked, blocks⟩ := handle_nextTick system.kernel
      (.svc stackptr syscallTaskNextTick args now) outside.free rfl
    cases run.symm.trans blocks

end Calls

section Example

attribute [local instance] PicoSdk.reference Malloc.reference

theorem bad_pid_not_rejected_example : ∃ system : System, system.Reachable System.Legal ∧
    0 ∉ system.live ∧
      (¬ Rejects system.kernel (handle (.svc 0 syscallKill .zero 100)) ∧
        ¬ Rejects system.kernel (handle (.svc 0 syscallTaskNextTick .zero 100))) := by
  obtain ⟨pids, kernel, launched, outside, live⟩ := launch_returns 0 0 [] 0 (by decide)
  have started : System.Started ⟨kernel, insert 1 (pids.map BitVec.toNat).toFinset⟩ :=
    ⟨0, 0, [], 0, pids, by decide, launched, rfl⟩
  have reachable : System.Reachable System.Legal ⟨kernel, insert 1 (pids.map BitVec.toNat).toFinset⟩ :=
    ⟨_, started, .refl⟩
  have bad : 0 ∉ insert 1 (pids.map BitVec.toNat).toFinset := by
    rw [live]
    decide
  exact ⟨_, reachable, bad, bad_pid_not_rejected reachable bad 0 100⟩

/-- The spin task, just started, kills the task with pid 0: no task has it. -/
theorem kill_pid_zero : ∃ system : System, system.Started ∧ 0 ∉ system.live ∧
    (∃ fault kernel', handle (.svc 0 syscallKill .zero 100) system.kernel = .error fault kernel' ∧
      fault ≠ .blockedForever) ∧
    ¬ Rejects system.kernel (handle (.svc 0 syscallKill .zero 100)) := by
  obtain ⟨pids, kernel, launched, outside, live⟩ := launch_returns 0 0 [] 0 (by decide)
  have initial := initial_atStart 0 0 [] 0 (by decide)
  have bad : 0 ∉ (atStart 0 0 [] 0).1 := by decide
  have awake : (atStart 0 0 [] 0).2.deadline 0 = nilTime := by decide
  obtain ⟨fault, kernel', stops, other⟩ : ∃ fault kernel',
      internalSyscallKill 0 100 kernel = .error fault kernel' ∧ fault ≠ .blockedForever := by
    rcases kill_bad_pid outside initial.invariant bad 100 with stops | ⟨_, _, _, asleep, _⟩
    · exact stops
    · exact absurd awake asleep
  have call (task : TaskPtr) : internalSyscall task syscallKill .zero 100 =
      internalSyscallKill 0 100 := rfl
  have run : handle (.svc 0 syscallKill .zero 100) kernel = .error fault kernel' := by
    simp [handle, svcallHandler, taskingGetCurrentTask, call, stops]
  refine ⟨⟨kernel, _⟩, ⟨0, 0, [], 0, pids, by decide, launched, rfl⟩, live ▸ bad,
    ⟨fault, kernel', run, other⟩, ?_⟩
  rintro ⟨value, kernel'', returned, -⟩
  cases run.symm.trans returned

end Example

end Gkrtos.PidChecks
