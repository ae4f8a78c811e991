import Gkrtos.List

/-! The state of the kernel and the functions of `tasking/tasking.c`. A task
pointer `&gkrtos_task_list[i]` is the index `i`; using one checks that it lies
inside the table. A function that reads the clock takes each reading as an
argument, in the order in which it makes them.

Three fields of the state are not memory of the program. They record what a
handler did, for stating properties, and no function reads them. -/
namespace Gkrtos

open PicoSdk

/-- `enum gkrtos_tasking_status` -/
inductive TaskStatus where
  | running
  | sleeping
  | complete
  | notReady
  deriving DecidableEq, Repr

/-- `enum gkrtos_tasking_priority`: any byte, since user priorities are counted
on from `GKRTOS_TASKING_PRIORITY_USER`. -/
abbrev TaskingPriority := UInt8

/-- `GKRTOS_TASKING_PRIORITY_USER` -/
def taskingPriorityUserBase : TaskingPriority := 3

/-- `gkrtos_pid_t`. Pids are handed out from 1 and creation stops at the end of
the task table, long before the counter wraps. -/
abbrev Pid := Nat

/-- `struct gkrtos_tasking_task *` -/
abbrev TaskPtr := Nat

structure Accounting where
  ctxSwitchTime : AbsoluteTime
  runTicks : UInt64
  deriving DecidableEq, Repr

/-- `struct gkrtos_tasking_task` -/
structure Task where
  pid : Pid
  priority : TaskingPriority
  currentPriority : TaskingPriority
  currentlyAssignedCore : Word
  taskStatus : TaskStatus
  function : Word
  runFrequency : Word
  stackptr : Word
  stackbase : Word
  nextRunTime : AbsoluteTime
  accounting : Accounting
  deriving DecidableEq, Repr

/-- What `queue_sort` reads as the `next_run_time` of the two list items it is
given. That field of a task lies behind the end of a list item, so this is
whatever the memory there holds: an input of each call, like a clock reading. -/
structure ItemsAsTasks where
  previousNextRunTime : AbsoluteTime
  nextNextRunTime : AbsoluteTime
  deriving DecidableEq, Repr

def ItemsAsTasks.zero : ItemsAsTasks := ⟨0, 0⟩

/-- A zeroed table entry; `GKRTOS_TASKING_STATUS_RUNNING` is the zero of its
enumeration. -/
def Task.zero : Task :=
  ⟨0, 0, 0, 0, .running, 0, 0, 0, 0, nilTime, ⟨0, 0⟩⟩

/-- `struct gkrtos_tasking_core` -/
structure Core where
  currentlyRunningPid : Pid
  queuedTask : Pid
  deriving DecidableEq, Repr

/-- What the scheduler did: a task returned by
`gkrtos_internal_tasking_get_next_task_locked`, with the time it was asked at
and whether it was taken out of the scheduled queue; and a task switched to by
PendSV. -/
inductive Event where
  | selected (task : TaskPtr) (time : AbsoluteTime) (woken : Bool)
  | dispatched (pid : Pid)
  deriving DecidableEq, Repr

/-- Entries to and exits from the data-structure critical section. -/
inductive SectionEvent where
  | entered
  | exited
  deriving DecidableEq, Repr

/-- A call into `list.c` that relies on what the list holds, with the heap it
was made on. -/
inductive ListCall where
  | getHead (lists : ListStore TaskPtr) (queue : ListPtr)
  | remove (lists : ListStore TaskPtr) (queue : ListPtr) (item : Addr)

/-- The globals of the kernel, the hardware state it works on, and the record
of what happened. -/
structure Kernel where
  /-- `gkrtos_task_list` -/
  taskList : TaskPtr → Task
  /-- `gkrtos_tasking_cores` -/
  cores : Nat → Core
  /-- `gkrtos_tasking_scheduled_queue` -/
  scheduledQueue : ListPtr
  /-- `gkrtos_tasking_unscheduled_queue` -/
  unscheduledQueue : ListPtr
  /-- `current_max_pid` of `gkrtos_tasking_task_new` -/
  currentMaxPid : Pid
  /-- `gkrtos_tasking_started` -/
  taskingStarted : Bool
  /-- `gkrtos_svcall_stackptr` -/
  svcallStackptr : Word
  /-- `critical_section_os_data_structures` -/
  criticalSection : CriticalSection
  /-- The C heap. -/
  lists : ListStore TaskPtr
  /-- `sio_hw->cpuid` -/
  cpuid : Nat
  /-- PRIMASK -/
  primask : InterruptMask
  /-- The priority fields of SHPR2 and SHPR3; a smaller number goes first. -/
  priority : Exception → Nat
  /-- The PendSV set-pending bit of ICSR. -/
  pendsvPending : Bool
  /-- PendSV has been taken and its handler has not disabled interrupts yet. -/
  pendsvActive : Bool
  trace : List Event
  sections : List SectionEvent
  listCalls : List ListCall

/-- A call into the kernel. -/
abbrev KernelM := EStateM Fault Kernel

/-- A call into `list.c`. -/
def onLists {α : Type} (call : ListM TaskPtr α) : KernelM α := fun kernel =>
  match call kernel.lists with
  | .ok result lists => .ok result { kernel with lists }
  | .error fault lists => .error (.list fault) { kernel with lists }

def recordCall (call : ListCall) : KernelM Unit :=
  modify fun kernel => { kernel with listCalls := kernel.listCalls ++ [call] }

/-- `gkrtos_list_get_head`, for one of the two queues. -/
def queueGetHead (queue : ListPtr) : KernelM TaskPtr := do
  recordCall (.getHead (← get).lists queue)
  onLists (listGetHead queue)

/-- `gkrtos_list_remove`, for one of the two queues. -/
def queueRemove (queue : ListPtr) (item : Addr) : KernelM Unit := do
  recordCall (.remove (← get).lists queue item)
  onLists (listRemove queue item)

def observe (event : Event) : KernelM Unit :=
  modify fun kernel => { kernel with trace := kernel.trace ++ [event] }

/-- `*task` -/
def loadTask (task : TaskPtr) : KernelM Task := do
  if task < configMaxTasks then return (← get).taskList task else throw .taskIndex

/-- Assignments to fields of `*task`. -/
def storeTask (task : TaskPtr) (change : Task → Task) : KernelM Unit := do
  if task < configMaxTasks then
    modify fun kernel => { kernel with
      taskList := Function.update kernel.taskList task (change (kernel.taskList task)) }
  else throw .taskIndex

/-- Assignments to fields of `gkrtos_tasking_cores[core]`. -/
def storeCore (core : Nat) (change : Core → Core) : KernelM Unit :=
  modify fun kernel => { kernel with
    cores := Function.update kernel.cores core (change (kernel.cores core)) }

section Kernel

variable [PicoSdk] [Malloc]

/-- `gkrtos_critical_section_data_structures_enter_blocking` -/
def criticalSectionDataStructuresEnterBlocking : KernelM Result := do
  let kernel ← get
  match criticalSectionEnterBlocking kernel.criticalSection kernel.primask with
  | some (criticalSection, primask) =>
    set { kernel with criticalSection, primask, sections := kernel.sections ++ [SectionEvent.entered] }
    return .success
  | none => throw .blockedForever

/-- `gkrtos_critical_section_data_structures_exit` -/
def criticalSectionDataStructuresExit : KernelM Result := do
  let kernel ← get
  let (criticalSection, primask) := criticalSectionExit kernel.criticalSection
  set { kernel with criticalSection, primask, sections := kernel.sections ++ [SectionEvent.exited] }
  return .success

/-- `gkrtos_get_systick_period`, in microseconds. -/
def getSystickPeriod : AbsoluteTime := 1000000 / systickFrequencyHz

/-- `gkrtos_internal_tasking_is_scheduled_task` -/
def internalTaskingIsScheduledTask (task : Task) : Bool := !isNilTime task.nextRunTime

/-- `gkrtos_tasking_get_current_task` -/
def taskingGetCurrentTask : KernelM TaskPtr := do
  let kernel ← get
  return (kernel.cores kernel.cpuid).currentlyRunningPid

/-- `gkrtos_trigger_pendsv` -/
def triggerPendsv : KernelM Result := do
  modify fun kernel => { kernel with pendsvPending := true }
  return .success

/-- `gkrtos_tasking_priority_user` -/
def taskingPriorityUser (priority : UInt8) : TaskingPriority := taskingPriorityUserBase + priority

/-- `gkrtos_tasking_task_new` -/
def taskingTaskNew (priority : TaskingPriority) : KernelM TaskPtr := do
  let _ ← criticalSectionDataStructuresEnterBlocking
  let processPid := (← get).currentMaxPid
  modify fun kernel => { kernel with currentMaxPid := processPid + 1 }
  let _ ← criticalSectionDataStructuresExit
  storeTask processPid fun task => { task with
    pid := processPid
    priority := priority
    currentPriority := priority
    currentlyAssignedCore := 0
    function := 0
    runFrequency := 0
    accounting := { task.accounting with runTicks := 0 }
    stackptr := 0
    stackbase := 0
    taskStatus := .notReady }
  return processPid

/-- `gkrtos_internal_context_switch` -/
def internalContextSwitch (currentCore : Nat) (currentTask nextTask : TaskPtr)
    (currentTaskSp : Word) (now now' : AbsoluteTime) : KernelM Word := do
  storeTask currentTask fun task => { task with stackptr := currentTaskSp }
  let currentPid := (← loadTask currentTask).pid
  storeCore currentCore fun core => { core with currentlyRunningPid := currentPid }
  -- Do task accounting
  if (← loadTask currentTask).taskStatus = .running then
    storeTask currentTask fun task => { task with
      accounting := { task.accounting with
        runTicks := task.accounting.runTicks + (now - task.accounting.ctxSwitchTime) / 1000 }
      taskStatus := .sleeping }
  storeTask nextTask fun task => { task with
    accounting := { task.accounting with ctxSwitchTime := now' }
    taskStatus := .running }
  let nextPid := (← loadTask nextTask).pid
  storeCore currentCore fun core => { core with currentlyRunningPid := nextPid }
  return (← loadTask nextTask).stackptr

/-- `queue_sort`. It takes the two list items it is given for tasks. -/
def queueSort (inserting : Task) (read : ItemsAsTasks) : Bool :=
  if !internalTaskingIsScheduledTask inserting then true
  else
    absoluteTimeDiffUs inserting.nextRunTime read.nextNextRunTime > 0 &&
      absoluteTimeDiffUs read.previousNextRunTime read.nextNextRunTime ≥ 0

/-- `gkrtos_internal_tasking_rescheduling_required_locked` -/
def internalTaskingReschedulingRequiredLocked (now now' : AbsoluteTime) : KernelM Bool := do
  let currentTask ← loadTask (← taskingGetCurrentTask)
  let elapsedTaskTime := (absoluteTimeDiffUs currentTask.accounting.ctxSwitchTime now).toUInt64
  if elapsedTaskTime > taskingTaskElapsedTimeUs then
    -- This task has run for long enough
    return true
  else
    let nextSystick := makeTimeoutTimeUs now' getSystickPeriod
    if ← onLists (listIsEmpty (← get).scheduledQueue) then
      return false
    else
      let head ← loadTask (← queueGetHead (← get).scheduledQueue)
      return absoluteTimeDiffUs head.nextRunTime nextSystick > 0

/-- `gkrtos_internal_tasking_get_next_task_locked` -/
def internalTaskingGetNextTaskLocked (now : AbsoluteTime) : KernelM TaskPtr := do
  let nextSystick := makeTimeoutTimeUs now getSystickPeriod
  let nothingDue ←
    if ← onLists (listIsEmpty (← get).scheduledQueue) then pure true
    else do
      let head ← loadTask (← queueGetHead (← get).scheduledQueue)
      pure (absoluteTimeDiffUs head.nextRunTime nextSystick ≤ 0 : Bool)
  if nothingDue then
    -- We have at least another systick until a scheduled task must be run
    let _ ← onLists (listRotate (← get).unscheduledQueue)
    let newTask ← queueGetHead (← get).unscheduledQueue
    observe (.selected newTask now false)
    return newTask
  else
    -- We have to schedule the task on the scheduled queue now
    let newTask ← queueGetHead (← get).scheduledQueue
    let item ← onLists (listGetItemWithData (← get).scheduledQueue newTask)
    queueRemove (← get).scheduledQueue item
    storeTask newTask fun task => { task with nextRunTime := nilTime }
    onLists (listAppend (← get).unscheduledQueue newTask)
    observe (.selected newTask now true)
    return newTask

/-- `gkrtos_internal_tasking_queue_task_locked` -/
def internalTaskingQueueTaskLocked (task : TaskPtr) (read : ItemsAsTasks) : KernelM Unit := do
  let record ← loadTask task
  if internalTaskingIsScheduledTask record then
    -- `gkrtos_list_insert_sorted` refuses to ever replace the head
    let atHead ←
      if ← onLists (listIsEmpty (← get).scheduledQueue) then pure false
      else do
        let head ← loadTask (← queueGetHead (← get).scheduledQueue)
        pure (absoluteTimeDiffUs head.nextRunTime record.nextRunTime < 0 : Bool)
    if atHead then
      onLists (listInsertHead (← get).scheduledQueue task)
    else
      let kernel ← get
      onLists (listInsertSorted kernel.scheduledQueue task fun rawItem _ _ =>
        queueSort (kernel.taskList rawItem) read)
  else
    onLists (listPrepend (← get).unscheduledQueue task)

/-- `gkrtos_internal_tasking_dequeue_task_locked` -/
def internalTaskingDequeueTaskLocked (task : TaskPtr) : KernelM Unit := do
  let record ← loadTask task
  let kernel ← get
  let queue :=
    if internalTaskingIsScheduledTask record then kernel.scheduledQueue else kernel.unscheduledQueue
  let item ← onLists (listGetItemWithData queue task)
  queueRemove queue item

/-- `gkrtos_internal_tasking_sleep_until` -/
def internalTaskingSleepUntil (task : TaskPtr) (milliseconds now : AbsoluteTime)
    (read : ItemsAsTasks) : KernelM TaskPtr := do
  let _ ← criticalSectionDataStructuresEnterBlocking
  internalTaskingDequeueTaskLocked task
  storeTask task fun record => { record with nextRunTime := milliseconds }
  internalTaskingQueueTaskLocked task read
  let newTask ← internalTaskingGetNextTaskLocked now
  let _ ← criticalSectionDataStructuresExit
  return newTask

/-- `gkrtos_internal_tasking_get_next_task` -/
def internalTaskingGetNextTask (now : AbsoluteTime) : KernelM TaskPtr := do
  let _ ← criticalSectionDataStructuresEnterBlocking
  let newTask ← internalTaskingGetNextTaskLocked now
  let _ ← criticalSectionDataStructuresExit
  return newTask

/-- `gkrtos_internal_queue_context_switch` -/
def internalQueueContextSwitch (task : TaskPtr) : KernelM TaskPtr := do
  let _ ← criticalSectionDataStructuresEnterBlocking
  let currentCore := (← get).cpuid
  let pid := (← loadTask task).pid
  storeCore currentCore fun core => { core with queuedTask := pid }
  if ((← get).cores currentCore).currentlyRunningPid ≠ (← loadTask task).pid then
    let _ ← triggerPendsv
  let _ ← criticalSectionDataStructuresExit
  return task

/-- `gkrtos_internal_tasking_init` -/
def internalTaskingInit : KernelM Result := do
  let scheduledQueue ← onLists listNew
  modify fun kernel => { kernel with scheduledQueue }
  let unscheduledQueue ← onLists listNew
  modify fun kernel => { kernel with unscheduledQueue }
  modify fun kernel => { kernel with
    cores := fun core => if core < archNumCores then ⟨0, 0⟩ else kernel.cores core }
  return .success

/-- `gkrtos_tasking_queue_task` -/
def taskingQueueTask (task : TaskPtr) (read : ItemsAsTasks) : KernelM Result := do
  let _ ← criticalSectionDataStructuresEnterBlocking
  internalTaskingQueueTaskLocked task read
  let _ ← criticalSectionDataStructuresExit
  return .success

/-- `gkrtos_tasking_dequeue_task` -/
def taskingDequeueTask (task : TaskPtr) : KernelM Result := do
  let _ ← criticalSectionDataStructuresEnterBlocking
  internalTaskingDequeueTaskLocked task
  let _ ← criticalSectionDataStructuresExit
  return .success

/-- `gkrtos_tasking_schedule_next_tick_task` -/
def taskingScheduleNextTickTask (pid : Pid) (now : AbsoluteTime) (read : ItemsAsTasks) :
    KernelM Result := do
  let _ ← criticalSectionDataStructuresEnterBlocking
  let taskToQueue := pid
  let _ ← taskingDequeueTask taskToQueue
  storeTask taskToQueue fun record => { record with nextRunTime := now }
  let _ ← taskingQueueTask taskToQueue read
  let _ ← criticalSectionDataStructuresExit
  return .success

/-- `gkrtos_tasking_reschedule_required` -/
def taskingRescheduleRequired (now now' : AbsoluteTime) : KernelM Bool := do
  let _ ← criticalSectionDataStructuresEnterBlocking
  let required ← internalTaskingReschedulingRequiredLocked now now'
  let _ ← criticalSectionDataStructuresExit
  return required

end Kernel

end Gkrtos
