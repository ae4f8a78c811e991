import Gkrtos.KernelWalk
import Gkrtos.Scheduler

/-! The code of the kernel carries out the abstract scheduler. A kernel state
with a well-formed heap stands for the scheduler state it shows; outside the
data-structure critical section the section is free and was always left again,
inside it is held over the interrupt mask found on entry. Every function goes
from one of these to the other with the effect of the abstract operation of its
name, given the few facts about the queues without which it would run into a
fault. On the way it reads the head of no empty list and removes no item from a
list it is not in. -/
namespace Gkrtos.KernelRefinement
open Stateful ListRefinement PicoSdk

/-- The two queues are different lists of a well-formed heap, core 0 runs, and
the exception priorities are the ones the kernel sets up. -/
structure Sound (kernel : Kernel) : Prop where
  heap : WellFormed kernel.lists
  scheduled : kernel.scheduledQueue < kernel.lists.lists
  unscheduled : kernel.unscheduledQueue < kernel.lists.lists
  apart : kernel.scheduledQueue ≠ kernel.unscheduledQueue
  core : kernel.cpuid = 0
  priorities : kernel.priority .systick ≤ systickPriority ∧
    kernel.priority .pendsv = pendsvPriority

/-- It depends on nothing else. -/
theorem Sound.of_same {kernel kernel' : Kernel} (sound : Sound kernel)
    (lists : kernel'.lists = kernel.lists)
    (scheduledQueue : kernel'.scheduledQueue = kernel.scheduledQueue)
    (unscheduledQueue : kernel'.unscheduledQueue = kernel.unscheduledQueue)
    (cpuid : kernel'.cpuid = kernel.cpuid) (priority : kernel'.priority = kernel.priority) :
    Sound kernel' := by
  obtain ⟨heap, scheduled, unscheduled, apart, core, priorities⟩ := sound
  constructor
  case heap => rwa [lists]
  case scheduled => rwa [scheduledQueue, lists]
  case unscheduled => rwa [unscheduledQueue, lists]
  case apart => rwa [scheduledQueue, unscheduledQueue]
  case core => rwa [cpuid]
  case priorities => rwa [priority]

/-- Every entry was followed by its exit before the next entry. -/
inductive Bracketed : List SectionEvent → Prop where
  | nil : Bracketed []
  | use {log : List SectionEvent} (before : Bracketed log) :
      Bracketed (log ++ [.entered] ++ [.exited])

/-- What a call into `list.c` relies on: there is a head to read, and the item to
remove is one of the list. -/
def Safe : ListCall → Prop
  | .getHead lists queue => 0 < (lists.header queue).length
  | .remove lists queue item =>
    item ≠ null ∧ item ∈ items lists queue ∧ 0 < (lists.header queue).length

/-- The kernel state stands for `s`, and the critical section is free. -/
structure Outside (mask : InterruptMask) (kernel : Kernel) (s : Scheduler) : Prop where
  sound : Sound kernel
  shows : view kernel = s
  free : kernel.criticalSection.held = false
  mask : kernel.primask = mask
  log : Bracketed kernel.sections ∧ ∀ call ∈ kernel.listCalls, Safe call

/-- The kernel state stands for `s`, and the critical section is held over the
given interrupt mask. -/
structure Inside (mask : InterruptMask) (kernel : Kernel) (s : Scheduler) : Prop where
  sound : Sound kernel
  shows : view kernel = s
  lock : kernel.criticalSection = ⟨true, mask⟩
  log : (∃ before, Bracketed before ∧ kernel.sections = before ++ [.entered]) ∧
    ∀ call ∈ kernel.listCalls, Safe call

variable {mask : InterruptMask} {kernel : Kernel} {s : Scheduler} {task : TaskPtr}

/-! ## Runs of the memory accesses -/

@[simp] theorem loadTask_run (inTable : task < configMaxTasks) :
    loadTask task kernel = .ok (kernel.taskList task) kernel := by
  simp [loadTask, inTable]

@[simp] theorem storeTask_run {change : Task → Task} (inTable : task < configMaxTasks) :
    storeTask task change kernel = .ok () { kernel with
      taskList := Function.update kernel.taskList task (change (kernel.taskList task)) } := by
  simp [storeTask, inTable]

theorem onLists_run {α : Type} {call : ListM TaskPtr α} {result : α} {lists : ListStore TaskPtr}
    (run : call kernel.lists = .ok result lists) :
    onLists call kernel = .ok result { kernel with lists } := by
  simp [onLists, run]

/-! ## What a kernel state inside the section shows -/

theorem Inside.table (inside : Inside mask kernel s) : kernel.taskList = s.table :=
  congrArg Scheduler.table inside.shows

theorem Inside.running (inside : Inside mask kernel s) :
    (kernel.cores kernel.cpuid).currentlyRunningPid = s.running :=
  congrArg Scheduler.running inside.shows

theorem Inside.ring (inside : Inside mask kernel s) :
    contents kernel.lists kernel.unscheduledQueue = s.ring :=
  congrArg Scheduler.ring inside.shows

theorem Inside.sleepers (inside : Inside mask kernel s) :
    contents kernel.lists kernel.scheduledQueue = s.sleepers :=
  congrArg Scheduler.sleepers inside.shows

/-! ## Effects on the abstract state -/

theorem inside_change (task : TaskPtr) (change : Task → Task) (inside : Inside mask kernel s) :
    Inside mask { kernel with
      taskList := Function.update kernel.taskList task (change (kernel.taskList task)) }
      (s.change task change) := by
  obtain ⟨sound, rfl, lock, log⟩ := inside
  exact ⟨sound.of_same rfl rfl rfl rfl rfl, rfl, lock, log⟩

theorem inside_observe (event : Event) (inside : Inside mask kernel s) :
    Inside mask { kernel with trace := kernel.trace ++ [event] }
      { s with trace := s.trace ++ [event] } := by
  obtain ⟨sound, rfl, lock, log⟩ := inside
  exact ⟨sound.of_same rfl rfl rfl rfl rfl, rfl, lock, log⟩

theorem inside_recordCall {call : ListCall} (inside : Inside mask kernel s) (safe : Safe call) :
    Inside mask { kernel with listCalls := kernel.listCalls ++ [call] } s := by
  obtain ⟨sound, rfl, lock, brackets, calls⟩ := inside
  refine ⟨sound.of_same rfl rfl rfl rfl rfl, rfl, lock, brackets, ?_⟩
  intro other member
  cases List.mem_append.mp member with
  | inl old => exact calls other old
  | inr new => exact List.mem_singleton.mp new ▸ safe

theorem inside_ring {sequence : List TaskPtr} {lists : ListStore TaskPtr}
    (inside : Inside mask kernel s)
    (updated : Updated kernel.lists kernel.unscheduledQueue sequence lists) :
    Inside mask { kernel with lists } { s with ring := sequence } := by
  obtain ⟨sound, rfl, lock, log⟩ := inside
  refine ⟨⟨updated.wellFormed, ?_, ?_, sound.apart, sound.core, sound.priorities⟩, ?_, lock, log⟩
  · exact updated.lists ▸ sound.scheduled
  · exact updated.lists ▸ sound.unscheduled
  · simp [view, updated.same, updated.others _ sound.scheduled sound.apart]

theorem inside_sleepers {sequence : List TaskPtr} {lists : ListStore TaskPtr}
    (inside : Inside mask kernel s)
    (updated : Updated kernel.lists kernel.scheduledQueue sequence lists) :
    Inside mask { kernel with lists } { s with sleepers := sequence } := by
  obtain ⟨sound, rfl, lock, log⟩ := inside
  refine ⟨⟨updated.wellFormed, ?_, ?_, sound.apart, sound.core, sound.priorities⟩, ?_, lock, log⟩
  · exact updated.lists ▸ sound.scheduled
  · exact updated.lists ▸ sound.unscheduled
  · simp [view, updated.same, updated.others _ sound.unscheduled sound.apart.symm]

/-! ## The critical section -/

section Section

variable [PicoSdk]

theorem enterBlocking_simulates : Simulates (Outside mask) (Inside mask) (fun _ => True)
    criticalSectionDataStructuresEnterBlocking (fun _ => .success) id := by
  rintro kernel s ⟨sound, rfl, free, rfl, log⟩ -
  refine returns_of_run (enter_run free) ?_
  exact ⟨sound.of_same rfl rfl rfl rfl rfl, rfl, rfl, ⟨_, log.1, rfl⟩, log.2⟩

theorem exit_simulates : Simulates (Inside mask) (Outside mask) (fun _ => True)
    criticalSectionDataStructuresExit (fun _ => .success) id := by
  rintro kernel s ⟨sound, rfl, lock, ⟨before, log, entered⟩, calls⟩ -
  refine returns_of_run exit_run ?_
  refine ⟨sound.of_same rfl rfl rfl rfl rfl, rfl, rfl, congrArg CriticalSection.save lock, ?_, calls⟩
  rw [entered]
  exact .use log

end Section

/-! ## Functions called inside the section -/

/-- Reading the head of a queue that has one. -/
private theorem getHead_run (inside : Inside mask kernel s) {queue : ListPtr}
    (valid : queue < kernel.lists.lists) {first : TaskPtr} {rest : List TaskPtr}
    (sequence : contents kernel.lists queue = first :: rest) :
    ∃ listCalls, queueGetHead queue kernel = .ok first { kernel with listCalls } ∧
      Inside mask { kernel with listCalls } s := by
  have head := listGetHead_spec inside.sound.heap valid sequence
  have length : 0 < (kernel.lists.header queue).length := by
    rw [← length_contents, sequence]
    exact Nat.succ_pos _
  have recorded : Inside mask { kernel with
      listCalls := kernel.listCalls ++ [.getHead kernel.lists queue] } s :=
    inside_recordCall inside length
  exact ⟨_, by simp [queueGetHead, recordCall, onLists, head], recorded⟩

/-- The scheduled queue is read at its head only. -/
private theorem read_head (inside : Inside mask kernel s) {first : TaskPtr} {rest : List TaskPtr}
    (shape : s.sleepers = first :: rest) :
    onLists (listIsEmpty kernel.scheduledQueue) kernel = .ok false kernel ∧
      ∃ listCalls, queueGetHead kernel.scheduledQueue kernel = .ok first { kernel with listCalls } ∧
        Inside mask { kernel with listCalls } s := by
  have sequence := inside.sleepers.trans shape
  have empty := listIsEmpty_spec inside.sound.heap inside.sound.scheduled
  rw [sequence] at empty
  exact ⟨onLists_run (by simpa using empty), getHead_run inside inside.sound.scheduled sequence⟩

private theorem read_empty (inside : Inside mask kernel s) (shape : s.sleepers = []) :
    onLists (listIsEmpty kernel.scheduledQueue) kernel = .ok true kernel := by
  have sequence := inside.sleepers.trans shape
  have empty := listIsEmpty_spec inside.sound.heap inside.sound.scheduled
  rw [sequence] at empty
  exact onLists_run (by simpa using empty)

section Locked

/-- Turning the ring hands out its second task. -/
private theorem rotate_run (inside : Inside mask kernel s) (ring : s.ring ≠ []) :
    ∃ turned value read, onLists (listRotate kernel.unscheduledQueue) kernel = .ok value turned ∧
      queueGetHead turned.unscheduledQueue turned = .ok ((s.ring.rotate 1).headD 0) read ∧
      Inside mask read { s with ring := s.ring.rotate 1 } := by
  obtain ⟨first, rest, shape⟩ := List.exists_cons_of_ne_nil ring
  have sequence : contents kernel.lists kernel.unscheduledQueue = first :: rest :=
    inside.ring.trans shape
  obtain ⟨lists, run, updated⟩ := listRotate_spec inside.sound.heap inside.sound.unscheduled sequence
  have turned : s.ring.rotate 1 = rest ++ [first] := by simp [shape]
  have insideTurned := inside_ring inside updated
  have valid : kernel.unscheduledQueue < lists.lists := updated.lists ▸ inside.sound.unscheduled
  rw [turned]
  cases rest with
  | nil =>
    obtain ⟨listCalls, head, insideRead⟩ := getHead_run insideTurned valid updated.same
    exact ⟨_, _, _, onLists_run run, head, insideRead⟩
  | cons second rest =>
    obtain ⟨listCalls, head, insideRead⟩ := getHead_run insideTurned valid updated.same
    exact ⟨_, _, _, onLists_run run, head, insideRead⟩

/-- Looking an item up and removing it are two calls into `list.c`. -/
private theorem removeData_run (inside : Inside mask kernel s) {queue : ListPtr}
    (valid : queue < kernel.lists.lists) (member : task ∈ contents kernel.lists queue) :
    ∃ item lists, onLists (listGetItemWithData queue task) kernel = .ok item kernel ∧
      queueRemove queue item kernel = .ok () { kernel with
        listCalls := kernel.listCalls ++ [.remove kernel.lists queue item], lists } ∧
      Updated kernel.lists queue ((contents kernel.lists queue).erase task) lists ∧
      Inside mask { kernel with listCalls := kernel.listCalls ++ [.remove kernel.lists queue item] } s := by
  obtain ⟨item, position, found, notNull, isItem, erased⟩ :=
    listGetItemWithData_found inside.sound.heap valid member
  obtain ⟨lists, run, updated⟩ := listRemoveItem_spec inside.sound.heap valid isItem
  have length : 0 < (kernel.lists.header queue).length := by
    rw [← length_contents]
    exact List.length_pos_of_mem member
  refine ⟨item, lists, onLists_run found, ?_, erased ▸ updated,
    inside_recordCall inside ⟨notNull, List.mem_of_getElem? isItem, length⟩⟩
  simp [queueRemove, recordCall, onLists, run]

private theorem remove_sleeper_run (task : TaskPtr) (inside : Inside mask kernel s)
    (member : task ∈ s.sleepers) :
    ∃ item removed,
      onLists (listGetItemWithData kernel.scheduledQueue task) kernel = .ok item kernel ∧
      queueRemove kernel.scheduledQueue item kernel = .ok () removed ∧
      Inside mask removed { s with sleepers := s.sleepers.erase task } := by
  obtain ⟨item, lists, found, removed, updated, recorded⟩ :=
    removeData_run inside inside.sound.scheduled (inside.sleepers.symm ▸ member)
  exact ⟨item, _, found, removed, inside_sleepers recorded (inside.sleepers ▸ updated)⟩

private theorem remove_ring_run (task : TaskPtr) (inside : Inside mask kernel s)
    (member : task ∈ s.ring) :
    ∃ item removed,
      onLists (listGetItemWithData kernel.unscheduledQueue task) kernel = .ok item kernel ∧
      queueRemove kernel.unscheduledQueue item kernel = .ok () removed ∧
      Inside mask removed { s with ring := s.ring.erase task } := by
  obtain ⟨item, lists, found, removed, updated, recorded⟩ :=
    removeData_run inside inside.sound.unscheduled (inside.ring.symm ▸ member)
  exact ⟨item, _, found, removed, inside_ring recorded (inside.ring ▸ updated)⟩

/-- A task is appended to the ring. -/
private theorem append_ring_run [Malloc] (task : TaskPtr) (inside : Inside mask kernel s) :
    ∃ lists, onLists (listAppend kernel.unscheduledQueue task) kernel = .ok () { kernel with lists } ∧
      Inside mask { kernel with lists } { s with ring := s.ring ++ [task] } := by
  obtain ⟨lists, run, updated⟩ := listAppend_spec inside.sound.heap inside.sound.unscheduled task
  exact ⟨lists, onLists_run run, inside_ring inside (inside.ring ▸ updated)⟩

variable [PicoSdk]

theorem isScheduledTask_eq (inside : Inside mask kernel s) (task : TaskPtr) :
    internalTaskingIsScheduledTask (kernel.taskList task) = decide (s.deadline task ≠ nilTime) := by
  rw [inside.table]
  by_cases awake : (s.table task).nextRunTime = 0 <;>
    simp [internalTaskingIsScheduledTask, PicoSdk.isNilTime_eq, Scheduler.deadline, nilTime, awake]

theorem dequeueTaskLocked_simulates (task : TaskPtr) :
    Simulates (Inside mask) (Inside mask)
      (fun s => task < configMaxTasks ∧ task ∈ if s.deadline task = nilTime then s.ring else s.sleepers)
      (internalTaskingDequeueTaskLocked task) (fun _ => ()) (·.dequeue task) := by
  rintro kernel s inside ⟨inTable, member⟩
  have scheduled := isScheduledTask_eq inside task
  by_cases awake : s.deadline task = nilTime
  · rw [if_pos awake] at member
    obtain ⟨item, kernel', found, removed, settled⟩ := remove_ring_run task inside member
    refine returns_of_run ?_ (Scheduler.dequeue_awake awake ▸ settled)
    simp [internalTaskingDequeueTaskLocked, inTable, scheduled, awake, found, removed]
  · rw [if_neg awake] at member
    obtain ⟨item, kernel', found, removed, settled⟩ := remove_sleeper_run task inside member
    refine returns_of_run ?_ (Scheduler.dequeue_asleep awake ▸ settled)
    simp [internalTaskingDequeueTaskLocked, inTable, scheduled, awake, found, removed]

/-- With no sleeper due the ring is turned. -/
private theorem idle_run [Malloc] {now : AbsoluteTime} (inside : Inside mask kernel s)
    (inTable : ∀ first ∈ s.sleepers, first < configMaxTasks) (nothing : s.due now = none) :
    ∃ listCalls, Inside mask { kernel with listCalls } s ∧
      internalTaskingGetNextTaskLocked now kernel = (do
        let _ ← onLists (listRotate (← get).unscheduledQueue)
        let newTask ← queueGetHead (← get).unscheduledQueue
        observe (.selected newTask now false)
        return newTask : KernelM TaskPtr) { kernel with listCalls } := by
  cases shape : s.sleepers with
  | nil =>
    have empty := read_empty inside shape
    exact ⟨kernel.listCalls, inside, by simp [internalTaskingGetNextTaskLocked, empty]⟩
  | cons first rest =>
    obtain ⟨nonempty, listCalls, head, insideRead⟩ := read_head inside shape
    have inside_table := inTable first (by simp [shape])
    have notDue : ¬ s.IsDue now first := Scheduler.due_eq_none.mp nothing first (by simp [shape])
    have later : absoluteTimeDiffUs (kernel.taskList first).nextRunTime
        (makeTimeoutTimeUs now getSystickPeriod) ≤ 0 := by
      rw [inside.table]
      exact Int64.not_lt.mp notDue
    exact ⟨listCalls, insideRead,
      by simp [internalTaskingGetNextTaskLocked, nonempty, head, inside_table, later]⟩

theorem getNextTaskLocked_simulates [Malloc] (now : AbsoluteTime) :
    Simulates (Inside mask) (Inside mask)
      (fun s => s.Choosable now ∧ ∀ first ∈ s.sleepers, first < configMaxTasks)
      (internalTaskingGetNextTaskLocked now) (·.choice now) (·.select now) := by
  rintro kernel s inside ⟨choosable, inTable⟩
  cases due : s.due now with
  | none =>
    obtain ⟨listCalls, insideRead, idle⟩ := idle_run inside inTable due
    obtain ⟨turned, value, read, run, head, insideTurned⟩ := rotate_run insideRead (choosable due)
    have settled : Inside mask _ (s.select now) :=
      Scheduler.select_idle due ▸ inside_observe (.selected (s.choice now) now false) insideTurned
    refine returns_of_run ?_ settled
    simp [idle, run, head, observe, Scheduler.choice_idle due]
  | some first =>
    obtain ⟨isFirst, isDue⟩ := Scheduler.due_eq_some.mp due
    obtain ⟨rest, shape⟩ := List.head?_eq_some_iff.mp isFirst
    obtain ⟨nonempty, looked, first_run, insideLooked⟩ := read_head inside shape
    have inside_table := inTable first (by simp [shape])
    obtain ⟨-, again, again_run, insideAgain⟩ := read_head insideLooked shape
    obtain ⟨item, without, found, removed, insideRemoved⟩ :=
      remove_sleeper_run first insideAgain (by simp [shape])
    have insideWoken :=
      inside_change first (fun task => { task with nextRunTime := nilTime }) insideRemoved
    obtain ⟨lists, appended, insideAppended⟩ := append_ring_run first insideWoken
    have timely : ¬ absoluteTimeDiffUs (kernel.taskList first).nextRunTime
        (makeTimeoutTimeUs now getSystickPeriod) ≤ 0 := by
      rw [inside.table]
      exact Int64.not_le.mpr isDue
    have settled : Inside mask _ (s.select now) :=
      Scheduler.select_due due ▸ inside_observe (.selected first now true) insideAppended
    refine returns_of_run ?_ settled
    simp [internalTaskingGetNextTaskLocked, nonempty, first_run, inside_table, timely, again_run,
      found, removed, appended, observe, Scheduler.choice_due due]

/-- With the ring empty too, its head pointer dangles, and the item it points at may have been
handed out again. -/
theorem getNextTaskLocked_dangling [Malloc] {now : AbsoluteTime} {kernel' : Kernel} {next : TaskPtr}
    (inside : Inside mask kernel s) (inTable : ∀ first ∈ s.sleepers, first < configMaxTasks)
    (nothing : s.due now = none) (nobody : s.ring = [])
    (run : internalTaskingGetNextTaskLocked now kernel = .ok next kernel') :
    next = kernel.lists.data (kernel.lists.header kernel.unscheduledQueue).head := by
  obtain ⟨listCalls, insideRead, idle⟩ := idle_run inside inTable nothing
  have rotated : onLists (listRotate kernel.unscheduledQueue) { kernel with listCalls } =
      .ok none { kernel with listCalls } :=
    onLists_run (listRotate_empty inside.sound.heap inside.sound.unscheduled (inside.ring.trans nobody))
  rw [idle] at run
  simp only [bind_apply, get_apply, rotated] at run
  obtain ⟨head, _, read, observed⟩ := bind_ok.mp run
  cases observed
  have dangles := queueGetHead_ok read
  exact dangles

/-- A task that does not go first is inserted where `queue_sort` says. -/
private theorem insertSorted_run [Malloc] {task : TaskPtr} (read : ItemsAsTasks)
    (inside : Inside mask kernel s) (asleep : s.deadline task ≠ nilTime)
    (goesBehind : ¬ s.GoesFirst task) :
    ∃ lists, onLists (listInsertSorted kernel.scheduledQueue task fun rawItem _ _ =>
        queueSort (kernel.taskList rawItem) read) kernel = .ok () { kernel with lists } ∧
      Inside mask { kernel with lists } (s.enqueue task read) := by
  obtain ⟨lists, run, updated⟩ := listInsertSorted_spec inside.sound.heap inside.sound.scheduled
    task (fun rawItem _ _ => queueSort (kernel.taskList rawItem) read)
  rw [inside.sleepers, inside.table] at updated
  rw [Scheduler.enqueue_behind asleep goesBehind]
  exact ⟨lists, onLists_run run, inside_sleepers inside updated⟩

theorem queueTaskLocked_simulates [Malloc] (task : TaskPtr) (read : ItemsAsTasks) :
    Simulates (Inside mask) (Inside mask)
      (fun s => task < configMaxTasks ∧ ∀ first ∈ s.sleepers, first < configMaxTasks)
      (internalTaskingQueueTaskLocked task read) (fun _ => ()) (·.enqueue task read) := by
  rintro kernel s inside ⟨taskInTable, inTable⟩
  have scheduled := isScheduledTask_eq inside task
  by_cases awake : s.deadline task = nilTime
  · obtain ⟨lists, run, updated⟩ := listPrepend_spec inside.sound.heap inside.sound.unscheduled task
    refine returns_of_run ?_
      (Scheduler.enqueue_awake awake read ▸ inside_ring inside (inside.ring ▸ updated))
    simp [internalTaskingQueueTaskLocked, taskInTable, scheduled, awake, onLists_run run]
  cases shape : s.sleepers with
  | nil =>
    have goesBehind : ¬ s.GoesFirst task := by simp [Scheduler.GoesFirst, shape]
    obtain ⟨lists, run, settled⟩ := insertSorted_run read inside awake goesBehind
    refine returns_of_run ?_ settled
    simp [internalTaskingQueueTaskLocked, taskInTable, scheduled, awake, read_empty inside shape, run]
  | cons first rest =>
    obtain ⟨nonempty, looked, head, insideLooked⟩ := read_head inside shape
    have firstInTable := inTable first (by simp [shape])
    by_cases goesFirst : s.GoesFirst task
    · obtain ⟨lists, run, updated⟩ :=
        listInsertHead_spec insideLooked.sound.heap insideLooked.sound.scheduled task
      refine returns_of_run ?_ (Scheduler.enqueue_first awake goesFirst read ▸
        inside_sleepers insideLooked (insideLooked.sleepers ▸ updated))
      have earlier : absoluteTimeDiffUs (kernel.taskList first).nextRunTime
          (kernel.taskList task).nextRunTime < 0 := by
        rw [inside.table]
        simpa [Scheduler.GoesFirst, Scheduler.deadline, shape] using goesFirst
      simp [internalTaskingQueueTaskLocked, taskInTable, scheduled, awake, nonempty, head,
        firstInTable, earlier, onLists_run run]
    · obtain ⟨lists, run, settled⟩ := insertSorted_run read insideLooked awake goesFirst
      refine returns_of_run ?_ settled
      have later : ¬ absoluteTimeDiffUs (kernel.taskList first).nextRunTime
          (kernel.taskList task).nextRunTime < 0 := by
        rw [inside.table]
        simpa [Scheduler.GoesFirst, Scheduler.deadline, shape] using goesFirst
      simp [internalTaskingQueueTaskLocked, taskInTable, scheduled, awake, nonempty, head,
        firstInTable, later, run]

theorem reschedulingRequiredLocked_simulates (now now' : AbsoluteTime) :
    Simulates (Inside mask) (Inside mask)
      (fun s => s.running < configMaxTasks ∧ ∀ first ∈ s.sleepers, first < configMaxTasks)
      (internalTaskingReschedulingRequiredLocked now now')
      (fun s => decide (s.RescheduleRequired now now')) id := by
  rintro kernel s inside ⟨runningInTable, inTable⟩
  have table := inside.table
  have running := inside.running
  by_cases elapsed : taskingTaskElapsedTimeUs <
      (absoluteTimeDiffUs (s.table s.running).accounting.ctxSwitchTime now).toUInt64
  · refine returns_of_run ?_ inside
    simp [internalTaskingReschedulingRequiredLocked, taskingGetCurrentTask, runningInTable, running,
      table, elapsed, Scheduler.RescheduleRequired]
  cases shape : s.sleepers with
  | nil =>
    refine returns_of_run ?_ inside
    simp [internalTaskingReschedulingRequiredLocked, taskingGetCurrentTask, runningInTable, running,
      table, elapsed, Scheduler.RescheduleRequired, read_empty inside shape, shape]
  | cons first rest =>
    obtain ⟨nonempty, looked, head, insideLooked⟩ := read_head inside shape
    have firstInTable := inTable first (by simp [shape])
    refine returns_of_run ?_ insideLooked
    simp [internalTaskingReschedulingRequiredLocked, taskingGetCurrentTask, runningInTable, running,
      table, elapsed, Scheduler.RescheduleRequired, Scheduler.IsDue, Scheduler.deadline, nonempty,
      head, firstInTable, shape]

end Locked

/-! ## Functions that take the section -/

section Functions

variable [PicoSdk]

/-- A function that does its work inside the section and returns a value made
from the result of that work. -/
private theorem locked_simulates {α β : Type} {ready : Scheduler → Prop} {program : KernelM α}
    {result : Scheduler → α} {effect : Scheduler → Scheduler} (value : α → β)
    (body : Simulates (Inside mask) (Inside mask) ready program result effect) :
    Simulates (Outside mask) (Outside mask) ready
      (do let _ ← criticalSectionDataStructuresEnterBlocking
          let found ← program
          let _ ← criticalSectionDataStructuresExit
          return value found)
      (fun s => value (result s)) effect := by
  intro kernel s outside ready
  refine returns_bind (enterBlocking_simulates kernel s outside trivial) fun kernel inside => ?_
  refine returns_bind (body kernel s inside ready) fun kernel inside => ?_
  refine returns_bind (exit_simulates kernel _ inside trivial) fun kernel outside => ?_
  exact returns_pure outside

theorem getNextTask_simulates [Malloc] (now : AbsoluteTime) :
    Simulates (Outside mask) (Outside mask)
      (fun s => s.Choosable now ∧ ∀ first ∈ s.sleepers, first < configMaxTasks)
      (internalTaskingGetNextTask now) (·.choice now) (·.select now) :=
  locked_simulates id (getNextTaskLocked_simulates now)

theorem getNextTask_dangling [Malloc] {now : AbsoluteTime} {kernel' : Kernel} {next : TaskPtr}
    (outside : Outside mask kernel s) (inTable : ∀ first ∈ s.sleepers, first < configMaxTasks)
    (nothing : s.due now = none) (nobody : s.ring = [])
    (run : internalTaskingGetNextTask now kernel = .ok next kernel') :
    next = kernel.lists.data (kernel.lists.header kernel.unscheduledQueue).head := by
  obtain ⟨entered, enter, inside⟩ := enterBlocking_simulates kernel s outside trivial
  cases (enter_run outside.free).symm.trans enter
  obtain ⟨_, _, enter', body⟩ := bind_ok.mp run
  cases enter.symm.trans enter'
  obtain ⟨chosen, _, choose, leave⟩ := bind_ok.mp body
  obtain ⟨_, _, -, returned⟩ := bind_ok.mp leave
  cases returned
  have dangles := getNextTaskLocked_dangling inside inTable nothing nobody choose
  exact dangles

theorem queueTask_simulates [Malloc] (task : TaskPtr) (read : ItemsAsTasks) :
    Simulates (Outside mask) (Outside mask)
      (fun s => task < configMaxTasks ∧ ∀ first ∈ s.sleepers, first < configMaxTasks)
      (taskingQueueTask task read) (fun _ => .success) (·.enqueue task read) :=
  locked_simulates (fun _ => Result.success) (queueTaskLocked_simulates task read)

theorem dequeueTask_simulates (task : TaskPtr) :
    Simulates (Outside mask) (Outside mask)
      (fun s => task < configMaxTasks ∧ task ∈ if s.deadline task = nilTime then s.ring else s.sleepers)
      (taskingDequeueTask task) (fun _ => .success) (·.dequeue task) :=
  locked_simulates (fun _ => Result.success) (dequeueTaskLocked_simulates task)

theorem rescheduleRequired_simulates (now now' : AbsoluteTime) :
    Simulates (Outside mask) (Outside mask)
      (fun s => s.running < configMaxTasks ∧ ∀ first ∈ s.sleepers, first < configMaxTasks)
      (taskingRescheduleRequired now now') (fun s => decide (s.RescheduleRequired now now')) id :=
  locked_simulates id (reschedulingRequiredLocked_simulates now now')

theorem queueContextSwitch_simulates (task : TaskPtr) :
    Simulates (Outside mask) (Outside mask) (fun _ => task < configMaxTasks)
      (internalQueueContextSwitch task) (fun _ => task) (·.request task) := by
  intro kernel s outside inTable
  rw [queueContextSwitch_eq]
  refine returns_bind (enterBlocking_simulates kernel s outside trivial) fun kernel inside => ?_
  obtain ⟨sound, rfl, lock, log⟩ := inside
  have requested : Inside mask (kernel.requesting (kernel.taskList task).pid)
      ((view kernel).request task) := by
    refine ⟨sound.of_same rfl rfl rfl rfl rfl, ?_, lock, log⟩
    simp [view, Scheduler.request, Scheduler.pid, Kernel.requesting, Kernel.running]
  obtain ⟨kernel', run, outside⟩ := exit_simulates _ _ requested trivial
  refine returns_of_run ?_ outside
  simp [inTable, run]

end Functions

end Gkrtos.KernelRefinement
