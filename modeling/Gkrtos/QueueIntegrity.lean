import Gkrtos.KernelRefinement
import Gkrtos.KernelWalk

/-! What no call can break, whatever its arguments are and whatever was called
before: the heap of lists stays well formed, the scheduled queue names entries of
the task table, and only the creation of a task counts on the pids. A call that
would break it ends in a fault. A statement that changes a queue is covered by the
specification of its list function, the others write elsewhere. -/
namespace Gkrtos.QueueIntegrity
open Stateful ListRefinement KernelRefinement

variable {α : Type} {maxPid : Pid} {kernel kernel' : Kernel} {task : TaskPtr} {queue : ListPtr}

/-- The queues are sound, and the next pid is this one. -/
structure Steady (maxPid : Pid) (kernel : Kernel) : Prop where
  sound : Sound kernel
  sleepers : ∀ task ∈ kernel.scheduled, task < configMaxTasks
  counted : kernel.currentMaxPid = maxPid

/-- A run of the program that returns leaves that so. -/
abbrev Steadies (program : KernelM α) : Prop :=
  ∀ maxPid, Yields (Steady maxPid) program (fun _ => True) (Steady maxPid)

/-! ## Statements that write elsewhere -/

/-- Everything that makes a kernel steady. -/
def layout (kernel : Kernel) :
    ListStore TaskPtr × ListPtr × ListPtr × Nat × (Exception → Nat) × Pid :=
  (kernel.lists, kernel.scheduledQueue, kernel.unscheduledQueue, kernel.cpuid, kernel.priority,
    kernel.currentMaxPid)

private theorem besideTasks : BesideTasks (fun _ => True) layout :=
  ⟨fun _ _ => rfl, fun _ _ => rfl, fun _ _ => rfl, fun _ _ => rfl, fun _ _ => rfl, trivial⟩

private theorem besideSection : BesideSection (fun _ => True) layout := ⟨fun _ _ _ _ => rfl, trivial⟩

theorem steady_of_layout (same : layout kernel' = layout kernel) (steady : Steady maxPid kernel) :
    Steady maxPid kernel' := by
  obtain ⟨sound, sleepers, counted⟩ := steady
  simp only [layout, Prod.mk.injEq] at same
  obtain ⟨lists, scheduled, unscheduled, core, priority, counter⟩ := same
  refine ⟨⟨?_, ?_, ?_, ?_, ?_, ?_⟩, ?_, ?_⟩
  · exact lists ▸ sound.heap
  · rw [lists, scheduled]
    exact sound.scheduled
  · rw [lists, unscheduled]
    exact sound.unscheduled
  · rw [scheduled, unscheduled]
    exact sound.apart
  · exact core.trans sound.core
  · rw [priority]
    exact sound.priorities
  · rw [Kernel.scheduled, lists, scheduled]
    exact sleepers
  · exact counter.trans counted

theorem steadies_kept {program : KernelM α} (keeps : Keeps (fun _ => True) layout program) :
    Steadies program :=
  fun _ => keeps.triple fun _ _ same steady => steady_of_layout same steady

/-! ## Statements that change a list -/

section Changes

variable {lists : ListStore TaskPtr} {sequence : List TaskPtr}

/-- Another sequence for one of the queues. -/
theorem steady_updated (steady : Steady maxPid kernel)
    (isQueue : kernel.IsQueue queue)
    (updated : Updated kernel.lists queue sequence lists)
    (inTable : queue = kernel.scheduledQueue → ∀ task ∈ sequence, task < configMaxTasks) :
    Steady maxPid { kernel with lists } := by
  obtain ⟨sound, sleepers, counted⟩ := steady
  refine ⟨⟨updated.wellFormed, ?_, ?_, sound.apart, sound.core, sound.priorities⟩, ?_, counted⟩
  · exact updated.lists ▸ sound.scheduled
  · exact updated.lists ▸ sound.unscheduled
  · change ∀ task ∈ contents lists kernel.scheduledQueue, task < configMaxTasks
    cases isQueue with
    | inl same =>
      rw [← same, updated.same]
      exact inTable same
    | inr same =>
      rw [updated.others _ sound.scheduled (same ▸ sound.apart)]
      exact sleepers

theorem queueRemove_ok {item : Addr} {done : Unit}
    (run : queueRemove queue item kernel = .ok done kernel') :
    ∃ lists listCalls, listRemove queue item kernel.lists = .ok done lists ∧
      kernel' = { kernel with lists, listCalls } := by
  have run : onLists (listRemove queue item)
      { kernel with listCalls := kernel.listCalls ++ [.remove kernel.lists queue item] } =
      .ok done kernel' := run
  obtain ⟨lists, removed, rfl⟩ := onLists_ok run
  exact ⟨lists, _, removed, rfl⟩

/-- What removing the item that carries the task leaves, if the item is not
missing. -/
theorem steady_removed {lists lists' : ListStore TaskPtr} {item : Addr}
    (listCalls : List ListCall) (steady : Steady maxPid kernel)
    (isQueue : kernel.IsQueue queue)
    (found : listGetItemWithData queue task kernel.lists = .ok item lists)
    (removed : listRemove queue item lists = .ok () lists') :
    Steady maxPid { kernel with lists := lists', listCalls } := by
  have valid : queue < kernel.lists.lists := by
    cases isQueue with
    | inl same => exact same ▸ steady.sound.scheduled
    | inr same => exact same ▸ steady.sound.unscheduled
  have run : listRemoveData queue task kernel.lists = .ok () lists' := by
    simp [listRemoveData, found, removed]
  have spec := listRemoveData_spec task steady.sound.heap valid
  have kept : Steady maxPid { kernel with lists := lists' } := by
    split_ifs at spec with member empty
    · obtain ⟨lists₁, run₁, updated⟩ := spec
      cases run.symm.trans run₁
      apply steady_updated steady isQueue updated
      rintro rfl task inQueue
      exact steady.sleepers task (List.mem_of_mem_erase inQueue)
    · cases run.symm.trans spec
      exact steady
    · cases run.symm.trans spec
  exact steady_of_layout (by rfl) kept

/-- A list function applied to one of the queues, with the sequence it makes of it. -/
private theorem steady_applied {call : ListM TaskPtr α} (steady : Steady maxPid kernel)
    (isQueue : kernel.IsQueue queue) {result : α}
    (spec : ∃ lists, call kernel.lists = .ok result lists ∧ Updated kernel.lists queue sequence lists)
    (inTable : queue = kernel.scheduledQueue → ∀ task ∈ sequence, task < configMaxTasks) :
    Yields (· = kernel) (onLists call) (fun _ => True) (Steady maxPid) := by
  apply triple_onLists fun _ => trivial
  rintro kernel result' lists rfl run
  obtain ⟨lists', run', updated⟩ := spec
  cases run.symm.trans run'
  exact ⟨trivial, steady_updated steady isQueue updated inTable⟩

end Changes

/-! ## Functions of the kernel -/

section Functions

variable [Malloc]

private theorem steady_queues (maxPid : Pid) :
    QueueSteps (fun _ => True) (Steady maxPid) fun _ => True := by
  have outside {sequence : List TaskPtr} {kernel : Kernel} (steady : Steady maxPid kernel) :
      kernel.unscheduledQueue = kernel.scheduledQueue → ∀ task ∈ sequence, task < configMaxTasks :=
    fun same => absurd same.symm steady.sound.apart
  have grown {sequence : List TaskPtr} {kernel : Kernel} {task : TaskPtr}
      (steady : Steady maxPid kernel) (inTable : task < configMaxTasks)
      (inserted : Inserted task kernel.scheduled sequence) :
      kernel.scheduledQueue = kernel.scheduledQueue → ∀ task ∈ sequence, task < configMaxTasks := by
    rintro - other member
    cases inserted.mem member with
    | inl same => exact same ▸ inTable
    | inr old => exact steady.sleepers other old
  constructor
  case toHeadSteps =>
    exact headSteps_of_recorded trivial (fun _ => trivial) fun _ _ => steady_of_layout (by rfl)
  case remove =>
    intro kernel queue task item steady isQueue found
    apply yields_of_ok
    rintro kernel done kernel' rfl run
    obtain ⟨lists, listCalls, removed, rfl⟩ := queueRemove_ok run
    exact ⟨trivial, steady_removed listCalls steady isQueue found removed⟩
  case rotate =>
    intro kernel steady
    cases shape : contents kernel.lists kernel.unscheduledQueue with
    | nil =>
      apply triple_onLists fun _ => trivial
      rintro kernel result lists rfl run
      cases run.symm.trans (listRotate_empty steady.sound.heap steady.sound.unscheduled shape)
      exact ⟨trivial, steady⟩
    | cons first rest =>
      exact steady_applied steady (.inr rfl)
        (listRotate_spec steady.sound.heap steady.sound.unscheduled shape) (outside steady)
  case append =>
    exact fun kernel task steady _ => steady_applied steady (.inr rfl)
      (listAppend_spec steady.sound.heap steady.sound.unscheduled task) (outside steady)
  case prepend =>
    exact fun kernel task steady _ => steady_applied steady (.inr rfl)
      (listPrepend_spec steady.sound.heap steady.sound.unscheduled task) (outside steady)
  case insertHead =>
    exact fun kernel task steady _ inTable => steady_applied steady (.inl rfl)
      (listInsertHead_spec steady.sound.heap steady.sound.scheduled task)
      (grown steady inTable (inserted_head task _))
  case insertSorted =>
    exact fun kernel task sortFn steady _ inTable => steady_applied steady (.inl rfl)
      (listInsertSorted_spec steady.sound.heap steady.sound.scheduled task sortFn)
      (grown steady inTable (inserted_insertBehind _ task _))

variable [PicoSdk]

theorem steady_steps (maxPid : Pid) :
    CallsKeep (fun _ => True) (Steady maxPid) :=
  callsKeep_of_observed (steady_queues maxPid) besideTasks besideSection fun _ _ => steady_of_layout

/-- Every system call but the creation of a task. -/
theorem steadies_syscall {number : Word} (task : TaskPtr) (args : SyscallArgs) (now : AbsoluteTime)
    (other : number ≠ syscallCreateTask) : Steadies (internalSyscall task number args now) := by
  intro maxPid
  apply (steady_steps maxPid).internalSyscall
  · exact fun creates => absurd creates other
  · exact fun _ => yields_taskNextTick args.pid now args.itemsAsTasks

/-- A creation counts on. -/
theorem steady_createTask (maxPid : Pid) (args : CreateTaskArgs) (read : ItemsAsTasks) :
    Yields (Steady maxPid) (internalSyscallCreateTask args read) (fun _ => True)
      (Steady (maxPid + 1)) := by
  have stored (task : TaskPtr) (change : Task → Task) : Steadies (storeTask task change) :=
    steadies_kept (keeps_storeTask besideTasks task change)
  have taskNew : Yields (Steady maxPid) (taskingTaskNew (taskingPriorityUser args.priority))
      (fun _ => True) (Steady (maxPid + 1)) := by
    have counted : ∀ kernel, Steady maxPid kernel →
        True ∧ Steady (maxPid + 1) { kernel with currentMaxPid := kernel.currentMaxPid + 1 } := by
      rintro kernel ⟨sound, sleepers, counted⟩
      exact ⟨trivial, sound.of_same rfl rfl rfl rfl rfl, sleepers, congrArg (· + 1) counted⟩
    exact triple_taskNew (steady_steps maxPid).enter counted (steady_steps (maxPid + 1)).leave
      fun task _ => stored task _ (maxPid + 1)
  apply (steady_steps (maxPid + 1)).createTask taskNew
  · exact fun task _ => stored task _ (maxPid + 1)
  · exact fun _ _ => trivial
  · exact fun _ _ _ _ _ => trivial

/-- The handlers of the two interrupts. -/
theorem steadies_interrupt {action : Action} (interrupt : action.Interrupts) :
    Steadies (handle action) := by
  cases action with
  | svc stackptr number args now => exact absurd interrupt id
  | systick stackptr now now' now'' =>
    exact fun maxPid => (steady_steps maxPid).systick stackptr now now' now''
  | takePendsv => exact steadies_kept (keeps_write (fun _ => rfl) (keeps_pure 0))
  | pendsv stackptr now now' =>
    apply steadies_kept
    apply keeps_bind (keeps_pendsv besideTasks stackptr now now')
    intro newSp
    exact keeps_write (fun _ => rfl) (keeps_pure newSp)

/-- Every handler. -/
theorem steady_handle {action : Action} {result : Word} (steady : Steady maxPid kernel)
    (run : handle action kernel = .ok result kernel') : ∃ maxPid', Steady maxPid' kernel' := by
  by_cases interrupt : action.Interrupts
  · exact ⟨maxPid, ((steadies_interrupt interrupt maxPid).ok steady run).2⟩
  cases action with
  | svc stackptr number args now =>
    have call : ∀ kernel, Steady maxPid kernel → Yields (· = kernel)
        (internalSyscall kernel.running number args now) (fun _ => True)
        fun kernel' => ∃ maxPid', Steady maxPid' kernel' := by
      intro kernel steady
      by_cases creates : number = syscallCreateTask
      · subst creates
        have created := (steady_createTask maxPid args.createTask args.itemsAsTasks).at steady
        exact created.imp (fun _ same => same) (fun _ fit => fit) fun _ steady => ⟨_, steady⟩
      · have kept := (steadies_syscall kernel.running args now creates maxPid).at steady
        exact kept.imp (fun _ same => same) (fun _ fit => fit) fun _ steady => ⟨_, steady⟩
    have handled : Yields (Steady maxPid) (svcallHandler stackptr number args now) (fun _ => True)
        fun kernel' => ∃ maxPid', Steady maxPid' kernel' :=
      triple_svcall call fun _ ⟨maxPid', steady⟩ => ⟨maxPid', steady_of_layout (by rfl) steady⟩
    exact (handled.ok steady run).2
  | _ => exact absurd trivial interrupt

end Functions

end Gkrtos.QueueIntegrity
