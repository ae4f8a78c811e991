import Gkrtos.ListFrames
import Gkrtos.SwitchFrames
import Gkrtos.System

/-! A walk through the functions of the kernel. Whatever one wants to know of all of
them (what they leave alone, what they keep, how they use the critical section) depends
on a few things: what the list functions do to the two queues, what entering and leaving
the section does, and what a request for a switch does. The functions are taken apart
here, once, and each such property is proved from these few. -/
namespace Gkrtos

open Stateful

variable {α β : Type} {excused : Fault → Prop} {before held free after : Kernel → Prop}
variable {fits : TaskPtr → Prop} {returns : α → Prop} {kernel : Kernel} {task : TaskPtr}

/-! ## Statements -/

/-- An entry of the table, before the rest. -/
theorem triple_loadTask (taskIndex : excused .taskIndex) {rest : Task → KernelM α}
    (follows : ∀ kernel, before kernel → task < configMaxTasks →
      Triple excused (· = kernel) (rest (kernel.taskList task)) returns after) :
    Triple excused before (loadTask task >>= rest) returns after := by
  intro kernel start
  by_cases inTable : task < configMaxTasks
  · have run : (loadTask task >>= rest) kernel = rest (kernel.taskList task) kernel := by
      simp [loadTask, inTable]
    rw [run]
    exact follows kernel start inTable kernel rfl
  · simp [loadTask, inTable, taskIndex]

/-- An assignment to fields of an entry. -/
theorem triple_storeTask (taskIndex : excused .taskIndex) {change : Task → Task}
    (stored : task < configMaxTasks → ∀ kernel, before kernel → after { kernel with
      taskList := Function.update kernel.taskList task (change (kernel.taskList task)) }) :
    Triple excused before (storeTask task change) (fun _ => True) after := by
  unfold storeTask
  by_cases inTable : task < configMaxTasks
  · rw [if_pos inTable]
    exact triple_modify (stored inTable)
  · rw [if_neg inTable]
    exact triple_throw taskIndex

theorem triple_currentTask {rest : TaskPtr → KernelM α}
    (follows : ∀ kernel, before kernel → Triple excused (· = kernel) (rest kernel.running) returns after) :
    Triple excused before (taskingGetCurrentTask >>= rest) returns after :=
  fun kernel start => follows kernel start kernel rfl

/-- A list function that only looks, before the rest. -/
theorem triple_look (listFault : ∀ fault, excused (.list fault)) {call : ListM TaskPtr α}
    (reads : Keeps (fun _ => True) id call) {rest : α → KernelM β} {returns : β → Prop}
    (follows : ∀ kernel result, before kernel → call kernel.lists = .ok result kernel.lists →
      Triple excused (· = kernel) (rest result) returns after) :
    Triple excused before (onLists call >>= rest) returns after := by
  intro kernel start
  rw [bind_apply, onLists]
  cases called : call kernel.lists with
  | ok result lists =>
    obtain rfl : lists = kernel.lists := reads.ok called
    exact follows kernel result start called kernel rfl
  | error fault lists => exact listFault fault

/-- And one that changes a list. -/
theorem triple_onLists (listFault : ∀ fault, excused (.list fault)) {call : ListM TaskPtr α}
    (changes : ∀ kernel result lists, before kernel → call kernel.lists = .ok result lists →
      returns result ∧ after { kernel with lists }) :
    Triple excused before (onLists call) returns after := by
  intro kernel start
  rw [onLists]
  cases called : call kernel.lists with
  | ok result lists => exact changes kernel result lists start called
  | error fault lists => exact listFault fault

theorem onLists_ok {kernel' : Kernel} {call : ListM TaskPtr α} {result : α}
    (run : onLists call kernel = .ok result kernel') :
    ∃ lists, call kernel.lists = .ok result lists ∧ kernel' = { kernel with lists } := by
  unfold onLists at run
  cases called : call kernel.lists with
  | ok result' lists =>
    rw [called] at run
    injection run with same final
    exact ⟨lists, same ▸ rfl, final.symm⟩
  | error fault lists =>
    rw [called] at run
    cases run

theorem queueGetHead_ok {kernel' : Kernel} {queue : ListPtr} {head : TaskPtr}
    (run : queueGetHead queue kernel = .ok head kernel') :
    head = kernel.lists.data (kernel.lists.header queue).head := by
  have run : onLists (listGetHead queue)
      { kernel with listCalls := kernel.listCalls ++ [.getHead kernel.lists queue] } =
      .ok head kernel' := run
  obtain ⟨lists, read, -⟩ := onLists_ok run
  exact listGetHead_ok read

/-! ## Functions that are called inside the section -/

def Kernel.IsQueue (kernel : Kernel) (queue : ListPtr) : Prop :=
  queue = kernel.scheduledQueue ∨ queue = kernel.unscheduledQueue

/-- Looking at the head of a queue keeps `held`, and what is there is a task that `fits`. -/
structure HeadSteps (excused : Fault → Prop) (held : Kernel → Prop) (fits : TaskPtr → Prop) :
    Prop where
  taskIndex : excused .taskIndex
  listFault : ∀ fault, excused (.list fault)
  getHead : ∀ kernel queue, held kernel → kernel.IsQueue queue →
    Triple excused (· = kernel) (queueGetHead queue) fits held

/-- The functions of `list.c` that change the two queues keep `held` too, if what is inserted
fits. -/
structure QueueSteps [Malloc] (excused : Fault → Prop) (held : Kernel → Prop)
    (fits : TaskPtr → Prop) : Prop extends HeadSteps excused held fits where
  remove : ∀ kernel queue task item, held kernel → kernel.IsQueue queue →
    listGetItemWithData queue task kernel.lists = .ok item kernel.lists →
      Triple excused (· = kernel) (queueRemove queue item) (fun _ => True) held
  rotate : ∀ kernel, held kernel →
    Triple excused (· = kernel) (onLists (listRotate kernel.unscheduledQueue)) (fun _ => True) held
  append : ∀ kernel task, held kernel → fits task →
    Triple excused (· = kernel) (onLists (listAppend kernel.unscheduledQueue task)) (fun _ => True) held
  prepend : ∀ kernel task, held kernel → fits task →
    Triple excused (· = kernel) (onLists (listPrepend kernel.unscheduledQueue task)) (fun _ => True) held
  insertHead : ∀ kernel task, held kernel → fits task → task < configMaxTasks →
    Triple excused (· = kernel) (onLists (listInsertHead kernel.scheduledQueue task)) (fun _ => True) held
  insertSorted : ∀ kernel task sortFn, held kernel → fits task → task < configMaxTasks →
    Triple excused (· = kernel) (onLists (listInsertSorted kernel.scheduledQueue task sortFn))
      (fun _ => True) held

theorem triple_recordCall
    (recorded : ∀ kernel listCalls, held kernel → held { kernel with listCalls }) (call : ListCall) :
    Triple excused held (recordCall call) (fun _ => True) held :=
  triple_modify fun kernel start => recorded kernel _ start

/-- Looking changes nothing but the record of list calls. -/
theorem headSteps_of_recorded (taskIndex : excused .taskIndex)
    (listFault : ∀ fault, excused (.list fault))
    (recorded : ∀ kernel listCalls, held kernel → held { kernel with listCalls }) :
    HeadSteps excused held fun _ => True := by
  refine ⟨taskIndex, listFault, ?_⟩
  intro kernel queue start _
  apply triple_get
  rintro kernel rfl
  apply triple_bind ((triple_recordCall recorded _).at start)
  · intro _ _
    apply triple_onLists listFault
    intro kernel head lists start called
    obtain rfl : lists = kernel.lists := (keeps_listGetHead queue : Keeps _ id _).ok called
    exact ⟨trivial, start⟩

/-- `held` is about nothing in the heap of lists nor in the record of list calls, and a fault
in a list or in the table is excused. -/
structure BesideLists (excused : Fault → Prop) (held : Kernel → Prop) : Prop where
  lists : ∀ kernel lists, held kernel → held { kernel with lists }
  listCalls : ∀ kernel listCalls, held kernel → held { kernel with listCalls }
  listFault : ∀ fault, excused (.list fault)
  taskIndex : excused .taskIndex

theorem BesideLists.steps [Malloc] (beside : BesideLists excused held) :
    QueueSteps excused held fun _ => True := by
  have call {α : Type} (call : ListM TaskPtr α) :
      Triple excused held (onLists call) (fun _ => True) held :=
    triple_onLists beside.listFault fun kernel _ lists start _ => ⟨trivial, beside.lists kernel lists start⟩
  have removed (queue : ListPtr) (item : Addr) :
      Triple excused held (queueRemove queue item) (fun _ => True) held := by
    apply triple_get
    intro kernel start
    exact triple_bind ((triple_recordCall beside.listCalls _).at start) fun _ _ => call _
  exact {
    toHeadSteps := headSteps_of_recorded beside.taskIndex beside.listFault beside.listCalls
    remove := fun kernel queue _ item start _ _ => (removed queue item).at start
    rotate := fun _ start => (call _).at start
    append := fun _ _ start _ => (call _).at start
    prepend := fun _ _ start _ => (call _).at start
    insertHead := fun _ _ start _ _ => (call _).at start
    insertSorted := fun _ _ _ start _ _ => (call _).at start }

namespace HeadSteps

variable (steps : HeadSteps excused held fits)
include steps

/-- A look at the head of the scheduled queue, and what follows from it. -/
theorem head (empty : Bool) (decision : Task → Bool) {rest : Bool → KernelM α}
    (follows : ∀ outcome, Triple excused held (rest outcome) returns after) :
    Triple excused held (do
      let isEmpty ← onLists (listIsEmpty (← get).scheduledQueue)
      if isEmpty then (pure empty : KernelM Bool) >>= rest
      else do
        let head ← loadTask (← queueGetHead (← get).scheduledQueue)
        (pure (decision head) : KernelM Bool) >>= rest) returns after := by
  apply triple_get
  intro kernel start
  apply triple_look steps.listFault (keeps_listIsEmpty _)
  rintro kernel isEmpty rfl -
  apply triple_ite
  · exact (follows empty).at start
  · apply triple_get
    rintro kernel rfl
    apply triple_bind (steps.getHead kernel _ start (.inl rfl))
    intro head _
    apply triple_loadTask steps.taskIndex
    exact fun kernel start _ => (follows _).at start

theorem reschedulingRequiredLocked [PicoSdk] (now now' : AbsoluteTime) :
    Triple excused held (internalTaskingReschedulingRequiredLocked now now') (fun _ => True) held := by
  apply triple_currentTask
  intro kernel start
  apply triple_loadTask steps.taskIndex
  rintro kernel rfl _
  apply triple_ite
  · exact (triple_pure trivial).at start
  · apply triple_get
    rintro kernel rfl
    apply triple_look steps.listFault (keeps_listIsEmpty _)
    rintro kernel isEmpty rfl -
    apply triple_ite
    · exact (triple_pure trivial).at start
    · apply triple_get
      rintro kernel rfl
      apply triple_bind (steps.getHead kernel _ start (.inl rfl))
      intro head _
      apply triple_loadTask steps.taskIndex
      exact fun kernel start _ => (triple_pure trivial).at start

end HeadSteps

namespace QueueSteps

variable [PicoSdk] [Malloc] (steps : QueueSteps excused held fits)
include steps

theorem dequeueTaskLocked (task : TaskPtr) :
    Triple excused held (internalTaskingDequeueTaskLocked task) (fun _ => True) held := by
  apply triple_loadTask steps.taskIndex
  intro kernel start _
  apply triple_get
  rintro kernel rfl
  apply triple_look steps.listFault (keeps_listGetItemWithData _ task)
  rintro kernel item rfl found
  refine steps.remove kernel _ task item start ?_ found
  split
  · exact .inl rfl
  · exact .inr rfl

theorem queueTaskLocked (fit : fits task) (read : ItemsAsTasks) :
    Triple excused held (internalTaskingQueueTaskLocked task read) (fun _ => True) held := by
  apply triple_loadTask steps.taskIndex
  intro kernel start inTable
  apply triple_ite
  · refine (steps.head false (fun head => (PicoSdk.absoluteTimeDiffUs head.nextRunTime
      (kernel.taskList task).nextRunTime < 0 : Bool)) ?_).at start
    intro atHead
    apply triple_ite
    · apply triple_get
      exact fun kernel start => steps.insertHead kernel task start fit inTable
    · apply triple_get
      exact fun kernel start => steps.insertSorted kernel task _ start fit inTable
  · apply triple_get
    rintro kernel rfl
    exact steps.prepend kernel task start fit

end QueueSteps

section Scheduler

variable [PicoSdk]

/-- Work done inside the section, and what follows outside. -/
theorem triple_locked {body : KernelM α} {found : α → Prop} {rest : α → KernelM β} {returns : β → Prop}
    {held' between : Kernel → Prop}
    (enter : Triple excused free criticalSectionDataStructuresEnterBlocking (fun _ => True) held)
    (inner : Triple excused held body found held')
    (leave : Triple excused held' criticalSectionDataStructuresExit (fun _ => True) between)
    (outer : ∀ result, found result → Triple excused between (rest result) returns after) :
    Triple excused free (do
      let _ ← criticalSectionDataStructuresEnterBlocking
      let result ← body
      let _ ← criticalSectionDataStructuresExit
      rest result) returns after := by
  apply triple_bind enter
  intro entered _
  apply triple_bind inner
  intro result fit
  exact triple_bind leave fun _ _ => outer result fit

theorem HeadSteps.rescheduleRequired (steps : HeadSteps excused held fits)
    (enter : Triple excused free criticalSectionDataStructuresEnterBlocking (fun _ => True) held)
    (leave : Triple excused held criticalSectionDataStructuresExit (fun _ => True) after)
    (now now' : AbsoluteTime) :
    Triple excused free (taskingRescheduleRequired now now') (fun _ => True) after :=
  triple_locked enter (steps.reschedulingRequiredLocked now now') leave fun _ _ => triple_pure trivial

/-- What the other statements do that choose a task or have to do with the section, which is
`free` outside. -/
structure SchedulerSteps [Malloc] (excused : Fault → Prop) (free held : Kernel → Prop)
    (fits : TaskPtr → Prop) : Prop extends QueueSteps excused held fits where
  setDeadline : ∀ task deadline, Triple excused held
    (storeTask task fun record => { record with nextRunTime := deadline }) (fun _ => True) held
  observe : ∀ event, Triple excused held (Gkrtos.observe event) (fun _ => True) held
  enter : Triple excused free criticalSectionDataStructuresEnterBlocking (fun _ => True) held
  leave : Triple excused held criticalSectionDataStructuresExit (fun _ => True) free

namespace SchedulerSteps

variable [Malloc] (steps : SchedulerSteps excused free held fits)
include steps

/-- The task that is chosen was at the head of a queue. -/
theorem getNextTaskLocked (now : AbsoluteTime) :
    Triple excused held (internalTaskingGetNextTaskLocked now) fits held := by
  apply steps.head true fun head => (PicoSdk.absoluteTimeDiffUs head.nextRunTime
    (PicoSdk.makeTimeoutTimeUs now getSystickPeriod) ≤ 0 : Bool)
  intro nothingDue
  apply triple_ite
  · apply triple_get
    intro kernel start
    apply triple_bind (steps.rotate kernel start)
    intro turned _
    apply triple_get
    intro kernel start
    apply triple_bind (steps.getHead kernel _ start (.inr rfl))
    intro next fit
    exact triple_bind (steps.observe _) fun _ _ => triple_pure fit
  · apply triple_get
    intro kernel start
    apply triple_bind (steps.getHead kernel _ start (.inl rfl))
    intro next fit
    apply triple_get
    intro kernel start
    apply triple_look steps.listFault (keeps_listGetItemWithData _ next)
    rintro kernel item rfl found
    apply triple_get
    rintro kernel rfl
    apply triple_bind (steps.remove kernel _ next item start (.inl rfl) found)
    intro removed _
    apply triple_bind (steps.setDeadline next _)
    intro woken _
    apply triple_get
    intro kernel start
    apply triple_bind (steps.append kernel next start fit)
    intro appended _
    exact triple_bind (steps.observe _) fun _ _ => triple_pure fit

/-! ## Functions that take the section -/

theorem getNextTask (now : AbsoluteTime) :
    Triple excused free (internalTaskingGetNextTask now) fits free :=
  triple_locked steps.enter (steps.getNextTaskLocked now) steps.leave fun _ fit => triple_pure fit

theorem dequeueTask (task : TaskPtr) :
    Triple excused free (taskingDequeueTask task) (fun _ => True) free :=
  triple_locked steps.enter (steps.dequeueTaskLocked task) steps.leave fun _ _ => triple_pure trivial

theorem queueTask (fit : fits task) (read : ItemsAsTasks) :
    Triple excused free (taskingQueueTask task read) (fun _ => True) free :=
  triple_locked steps.enter (steps.queueTaskLocked fit read) steps.leave fun _ _ => triple_pure trivial

theorem sleepUntil (fit : fits task) (milliseconds now : AbsoluteTime) (read : ItemsAsTasks) :
    Triple excused free (internalTaskingSleepUntil task milliseconds now read) fits free := by
  apply triple_bind steps.enter
  intro entered _
  apply triple_bind (steps.dequeueTaskLocked task)
  intro removed _
  apply triple_bind (steps.setDeadline task milliseconds)
  intro written _
  apply triple_bind (steps.queueTaskLocked fit read)
  intro inserted _
  apply triple_bind (steps.getNextTaskLocked now)
  intro next chosen
  exact triple_bind steps.leave fun _ _ => triple_pure chosen

end SchedulerSteps

/-- The pid is queued, and PendSV is triggered unless the task is running. -/
def Kernel.requesting (kernel : Kernel) (pid : Pid) : Kernel :=
  { kernel with
    cores := Function.update kernel.cores kernel.cpuid
      { kernel.cores kernel.cpuid with queuedTask := pid }
    pendsvPending := kernel.pendsvPending || kernel.running != pid }

theorem queueContextSwitch_eq (task : TaskPtr) : internalQueueContextSwitch task = (do
    let _ ← criticalSectionDataStructuresEnterBlocking
    let record ← loadTask task
    modify fun kernel => kernel.requesting record.pid
    let _ ← criticalSectionDataStructuresExit
    return task) := by
  unfold internalQueueContextSwitch
  congr 1
  funext entered kernel
  by_cases inTable : task < configMaxTasks
  · by_cases same : (kernel.cores kernel.cpuid).currentlyRunningPid = (kernel.taskList task).pid
    · simp [loadTask, inTable, storeCore, Kernel.requesting, Kernel.running, same]
    · simp [loadTask, inTable, storeCore, triggerPendsv, Kernel.requesting, Kernel.running, same,
        bne_iff_ne.mpr same]
  · simp [loadTask, inTable]

theorem triple_queueContextSwitch {held' : Kernel → Prop} (taskIndex : excused .taskIndex)
    (enter : Triple excused free criticalSectionDataStructuresEnterBlocking (fun _ => True) held)
    (request : ∀ kernel, held kernel → task < configMaxTasks →
      held' (kernel.requesting (kernel.taskList task).pid))
    (leave : Triple excused held' criticalSectionDataStructuresExit (fun _ => True) after) :
    Triple excused free (internalQueueContextSwitch task) (fun _ => True) after := by
  rw [queueContextSwitch_eq]
  apply triple_bind enter
  intro entered _
  apply triple_loadTask taskIndex
  intro kernel start inTable
  apply triple_bind
  · apply triple_modify
    rintro kernel rfl
    exact request kernel start inTable
  · exact fun _ _ => triple_bind leave fun _ _ => triple_pure trivial

/-! ## A new task -/

/-- The pid is the counter, which has moved on by the time the entry is written. -/
theorem triple_taskNew {held' free' : Kernel → Prop} {priority : TaskingPriority}
    (enter : Triple excused free criticalSectionDataStructuresEnterBlocking (fun _ => True) held)
    (count : ∀ kernel, held kernel → fits kernel.currentMaxPid ∧
      held' { kernel with currentMaxPid := kernel.currentMaxPid + 1 })
    (leave : Triple excused held' criticalSectionDataStructuresExit (fun _ => True) free')
    (fill : ∀ task, fits task → Triple excused free' (storeTask task fun record => { record with
      pid := task
      priority := priority
      currentPriority := priority
      currentlyAssignedCore := 0
      function := 0
      runFrequency := 0
      accounting := { record.accounting with runTicks := 0 }
      stackptr := 0
      stackbase := 0
      taskStatus := .notReady }) (fun _ => True) after) :
    Triple excused free (taskingTaskNew priority) fits after := by
  apply triple_bind enter
  intro entered _
  apply triple_get
  intro kernel start
  obtain ⟨fit, counted⟩ := count kernel start
  apply triple_bind
  · apply triple_modify
    rintro kernel rfl
    exact counted
  intro stored _
  apply triple_bind leave
  intro left _
  exact triple_bind (fill _ fit) fun _ _ => triple_pure fit

/-- It enters the section a second time, and waits for itself. -/
theorem yields_taskNextTick [Malloc] {returns : Word → Prop} (pid : Pid) (now : AbsoluteTime)
    (read : ItemsAsTasks) : Yields before (internalSyscallTaskNextTick pid now read) returns after := by
  apply yields_of_ok
  intro kernel value final _ run
  obtain ⟨scheduled, _, schedule, -⟩ := bind_ok.mp run
  obtain ⟨first, entered, enter, within⟩ := bind_ok.mp schedule
  obtain ⟨removed, _, dequeue, -⟩ := bind_ok.mp within
  obtain ⟨second, entered', enter', -⟩ := bind_ok.mp dequeue
  have held := (enter_ok enter).2
  have free := (enter_ok enter').1
  rw [held] at free
  cases free

/-! ## System calls -/

section Syscalls

variable [Malloc] {between : Kernel → Prop}

theorem SchedulerSteps.yield (steps : SchedulerSteps excused free held fits)
    (request : ∀ task, fits task →
      Triple excused free (internalQueueContextSwitch task) (fun _ => True) after)
    (now : AbsoluteTime) : Triple excused free (internalSyscallYield now) (fun _ => True) after := by
  apply triple_bind (steps.getNextTask now)
  intro next fit
  exact triple_bind (request next fit) fun _ _ => triple_pure trivial

theorem SchedulerSteps.syscallSleepUntil (steps : SchedulerSteps excused free held fits)
    (request : ∀ task, fits task →
      Triple excused free (internalQueueContextSwitch task) (fun _ => True) after)
    (fit : fits task) (milliseconds now : AbsoluteTime) (read : ItemsAsTasks) :
    Triple excused free (internalSyscallSleepUntil task milliseconds now read) (fun _ => True) after := by
  apply triple_bind (steps.sleepUntil fit milliseconds now read)
  intro next chosen
  exact triple_bind (request next chosen) fun _ _ => triple_pure trivial

theorem SchedulerSteps.kill (steps : SchedulerSteps excused free held fits)
    (request : ∀ task, fits task →
      Triple excused free (internalQueueContextSwitch task) (fun _ => True) after)
    {pid : Pid} (mark : Triple excused before
      (storeTask pid fun task => { task with taskStatus := .complete }) (fun _ => True) free)
    (now : AbsoluteTime) : Triple excused before (internalSyscallKill pid now) (fun _ => True) after := by
  apply triple_bind mark
  intro marked _
  apply triple_bind (steps.getNextTask now)
  intro next fit
  apply triple_bind (steps.dequeueTask pid)
  intro removed _
  exact triple_bind (request next fit) fun _ _ => triple_pure trivial

theorem triple_die (taskIndex : excused .taskIndex) {now : AbsoluteTime}
    (kill : ∀ kernel, before kernel → task < configMaxTasks → Triple excused (· = kernel)
      (internalSyscallKill (kernel.taskList task).pid now) (fun _ => True) after) :
    Triple excused before (internalSyscallDie task now) (fun _ => True) after := by
  apply triple_loadTask taskIndex
  intro kernel start inTable
  exact triple_bind (kill kernel start inTable) fun _ _ => triple_pure trivial

theorem SchedulerSteps.createTask (steps : SchedulerSteps excused free held fits)
    {args : CreateTaskArgs} {new : TaskPtr → Prop} {returns : Word → Prop}
    (taskNew : Triple excused before (taskingTaskNew (taskingPriorityUser args.priority)) new between)
    (fill : ∀ task, new task → Triple excused between (storeTask task fun record => { record with
      function := args.function
      stackptr := internalStackInit args.stackBase
      stackbase := args.stackBase
      taskStatus := .sleeping
      runFrequency := args.runFrequency }) (fun _ => True) free)
    (fit : ∀ task, new task → fits task)
    (pid : ∀ task kernel, new task → free kernel → task < configMaxTasks →
      returns (BitVec.ofNat 32 (kernel.taskList task).pid)) (read : ItemsAsTasks) :
    Triple excused before (internalSyscallCreateTask args read) returns free := by
  apply triple_bind taskNew
  intro task isNew
  apply triple_bind (fill task isNew)
  intro filled _
  apply triple_bind (steps.queueTask (fit task isNew) read)
  intro queued _
  apply triple_loadTask steps.taskIndex
  exact fun kernel start inTable => (triple_pure (pid task kernel isNew start inTable)).at start

/-- A property that neither the table nor the counter has to do with. -/
theorem SchedulerSteps.createTask_kept (steps : SchedulerSteps excused free held fun _ => True)
    (store : ∀ task change, Triple excused free (storeTask task change) (fun _ => True) free)
    (count : ∀ kernel currentMaxPid, held kernel → held { kernel with currentMaxPid })
    (args : CreateTaskArgs) (read : ItemsAsTasks) :
    Triple excused free (internalSyscallCreateTask args read) (fun _ => True) free := by
  have counted : ∀ kernel, held kernel →
      True ∧ held { kernel with currentMaxPid := kernel.currentMaxPid + 1 } :=
    fun kernel start => ⟨trivial, count kernel _ start⟩
  have taskNew (priority : TaskingPriority) :
      Triple excused free (taskingTaskNew priority) (fun _ => True) free :=
    triple_taskNew steps.enter counted steps.leave fun task _ => store task _
  exact steps.createTask (taskNew _) (fun task _ => store task _) (fun _ _ => trivial)
    (fun _ _ _ _ _ => trivial) read

/-- The dispatcher. -/
theorem triple_internalSyscall {number : Word} {args : SyscallArgs} {now : AbsoluteTime}
    {returns : Word → Prop}
    (die : number = syscallDie → Triple excused before (internalSyscallDie task now) returns after)
    (yield : number = syscallYield → Triple excused before (internalSyscallYield now) returns after)
    (kill : number = syscallKill →
      Triple excused before (internalSyscallKill args.pid now) returns after)
    (sleepUntil : number = syscallSleepUntil → Triple excused before
      (internalSyscallSleepUntil task args.milliseconds now args.itemsAsTasks) returns after)
    (createTask : number = syscallCreateTask → Triple excused before
      (internalSyscallCreateTask args.createTask args.itemsAsTasks) returns after)
    (taskNextTick : number = syscallTaskNextTick → Triple excused before
      (internalSyscallTaskNextTick args.pid now args.itemsAsTasks) returns after)
    (unknown : syscallTaskNextTick < number → Triple excused before
      (pure (-syscallErrnoNoSuchSyscall)) returns after) :
    Triple excused before (internalSyscall task number args now) returns after := by
  unfold internalSyscall
  split_ifs with isDie isYield isKill isSleepUntil isCreateTask isTaskNextTick
  · exact die isDie
  · exact yield isYield
  · exact kill isKill
  · exact sleepUntil isSleepUntil
  · exact createTask isCreateTask
  · exact taskNextTick isTaskNextTick
  · apply unknown
    simp only [syscallDie, syscallYield, syscallKill, syscallSleepUntil, syscallCreateTask,
      syscallTaskNextTick] at *
    bv_omega

/-! ## Handlers -/

theorem triple_svcall {stackptr number : Word} {args : SyscallArgs} {now : AbsoluteTime}
    {returns : Word → Prop}
    (call : ∀ kernel, before kernel → Triple excused (· = kernel)
      (internalSyscall kernel.running number args now) returns between)
    (note : ∀ kernel, between kernel → after { kernel with svcallStackptr := stackptr }) :
    Triple excused before (svcallHandler stackptr number args now) returns after := by
  apply triple_currentTask
  intro kernel start
  apply triple_bind (call kernel start)
  intro result fit
  exact triple_bind (triple_modify note) fun _ _ => triple_pure fit

theorem SchedulerSteps.systick (steps : SchedulerSteps excused free held fits)
    (request : ∀ task, fits task →
      Triple excused free (internalQueueContextSwitch task) (fun _ => True) after)
    (idle : ∀ kernel, free kernel → after kernel) (stackptr : Word) (now now' now'' : AbsoluteTime) :
    Triple excused free (systickHandler stackptr now now' now'') (fun _ => True) after := by
  apply triple_bind (steps.rescheduleRequired steps.enter steps.leave now now')
  intro required _
  apply triple_ite
  · apply triple_bind (steps.getNextTask now'')
    intro next fit
    exact triple_bind (request next fit) fun _ _ => triple_pure trivial
  · exact (triple_pure trivial).imp (fun _ start => start) (fun _ fit => fit) idle

/-! ## What the calls leave as they found it -/

/-- The walk for a property that holds outside the section before and one that holds there after,
whichever task is chosen or killed. A switch is asked for in the section, which is left then. -/
structure CallSteps (excused : Fault → Prop) (free held asked after : Kernel → Prop) : Prop
    extends SchedulerSteps excused free held fun _ => True where
  request : ∀ kernel pid, held kernel → asked (kernel.requesting pid)
  leaveAsked : Triple excused asked criticalSectionDataStructuresExit (fun _ => True) after
  mark : ∀ pid, Triple excused free (storeTask pid fun task => { task with taskStatus := .complete })
    (fun _ => True) free
  idle : ∀ kernel, free kernel → after kernel

namespace CallSteps

variable {asked : Kernel → Prop} (steps : CallSteps excused free held asked after)
variable {args : SyscallArgs} {now : AbsoluteTime}
include steps

theorem queueContextSwitch (task : TaskPtr) :
    Triple excused free (internalQueueContextSwitch task) (fun _ => True) after :=
  triple_queueContextSwitch steps.taskIndex steps.enter
    (fun kernel start _ => steps.request kernel _ start) steps.leaveAsked

theorem kill (pid : Pid) (now : AbsoluteTime) :
    Triple excused free (internalSyscallKill pid now) (fun _ => True) after :=
  steps.toSchedulerSteps.kill (fun task _ => steps.queueContextSwitch task) (steps.mark pid) now

/-- Every system call but the two that use more than this. -/
theorem internalSyscall {number : Word}
    (createTask : number = syscallCreateTask → Triple excused free
      (internalSyscallCreateTask args.createTask args.itemsAsTasks) (fun _ => True) after)
    (taskNextTick : number = syscallTaskNextTick → Triple excused free
      (internalSyscallTaskNextTick args.pid now args.itemsAsTasks) (fun _ => True) after) :
    Triple excused free (internalSyscall task number args now) (fun _ => True) after := by
  have request : ∀ task, True →
      Triple excused free (internalQueueContextSwitch task) (fun _ => True) after :=
    fun task _ => steps.queueContextSwitch task
  apply triple_internalSyscall
  case die => exact fun _ => triple_die steps.taskIndex fun _ start _ => (steps.kill _ now).at start
  case yield => exact fun _ => steps.yield request now
  case kill => exact fun _ => steps.kill args.pid now
  case sleepUntil => exact fun _ => steps.syscallSleepUntil request trivial _ now _
  case createTask => exact createTask
  case taskNextTick => exact taskNextTick
  case unknown =>
    exact fun _ => (triple_pure trivial).imp (fun _ start => start) (fun _ fit => fit) steps.idle

theorem systick (stackptr : Word) (now now' now'' : AbsoluteTime) :
    Triple excused free (systickHandler stackptr now now' now'') (fun _ => True) after :=
  steps.toSchedulerSteps.systick (fun task _ => steps.queueContextSwitch task) steps.idle
    stackptr now now' now''

end CallSteps

/-- One property all the way. -/
abbrev CallsKeep (excused : Fault → Prop) (held : Kernel → Prop) : Prop :=
  CallSteps excused held held held held

/-- Nothing but the functions of `list.c` has to do with it. -/
theorem callsKeep_of_observed {ω : Type} {observe : Kernel → ω}
    (queues : QueueSteps excused held fun _ => True) (besideTasks : BesideTasks excused observe)
    (besideSection : BesideSection excused observe)
    (seen : ∀ kernel kernel', observe kernel' = observe kernel → held kernel → held kernel') :
    CallsKeep excused held := by
  have store (task : TaskPtr) (change : Task → Task) :
      Triple excused held (storeTask task change) (fun _ => True) held :=
    (keeps_storeTask besideTasks task change).triple seen
  have requested (kernel : Kernel) (pid : Pid) : observe (kernel.requesting pid) = observe kernel :=
    let cores := (kernel.requesting pid).cores
    (besideTasks.pendsvPending { kernel with cores } _).trans (besideTasks.cores kernel cores)
  exact {
    toQueueSteps := queues
    setDeadline := fun task _ => store task _
    observe := fun event => (keeps_observe besideTasks event).triple seen
    enter := (keeps_enter besideSection).triple seen
    leave := (keeps_exit besideSection).triple seen
    request := fun kernel pid => seen kernel _ (requested kernel pid)
    leaveAsked := (keeps_exit besideSection).triple seen
    idle := fun _ start => start
    mark := fun pid => store pid _ }

end Syscalls

end Scheduler

end Gkrtos
