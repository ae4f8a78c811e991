import Gkrtos.HandlerRefinement
import Gkrtos.KernelWalk
import Gkrtos.SyscallResults

/-! What the run time of the tasks is reckoned from: how many pids were handed out, which
task runs, the status of every task and its accounting data. The queues decide who runs
next but not what is on the ledger, so this is followed through every function of the
kernel without asking what the queues look like: they may be damaged, as long as every
list item points at a task that was created. -/
namespace Gkrtos

open Stateful

structure Ledger where
  maxPid : Pid
  running : Pid
  status : TaskPtr → TaskStatus
  accounting : TaskPtr → Accounting

def Kernel.ledger (kernel : Kernel) : Ledger where
  maxPid := kernel.currentMaxPid
  running := kernel.running
  status task := (kernel.taskList task).taskStatus
  accounting task := (kernel.taskList task).accounting

namespace Ledger

variable (l : Ledger) (task : TaskPtr)

/-- The pid was handed out, or it is the 0 that no task has. -/
def Created : Prop := task < l.maxPid

/-- The status and the accounting data of a task are rewritten. -/
def post (status : TaskStatus) (accounting : Accounting) : Ledger :=
  { l with
    status := Function.update l.status task status
    accounting := Function.update l.accounting task accounting }

@[simp] theorem post_same : l.post task (l.status task) (l.accounting task) = l := by
  simp [post]

/-- One more task, with nothing charged. -/
def enter (status : TaskStatus) : Ledger :=
  { l with maxPid := l.maxPid + 1 }.post l.maxPid status { l.accounting l.maxPid with runTicks := 0 }

theorem enter_post (status status' : TaskStatus) :
    (l.enter status).post l.maxPid status' ((l.enter status).accounting l.maxPid) =
      l.enter status' := by
  simp [enter, post]

/-- The running task is charged for its turn, if it is marked as running. -/
def stop (now : AbsoluteTime) : Ledger :=
  if l.status l.running = .running then
    l.post l.running .sleeping { l.accounting l.running with
      runTicks := (l.accounting l.running).runTicks +
        (now - (l.accounting l.running).ctxSwitchTime) / 1000 }
  else l

theorem created_stop (now : AbsoluteTime) : (l.stop now).Created task ↔ l.Created task := by
  unfold stop
  split <;> rfl

/-- A task is switched in. -/
def resume (now' : AbsoluteTime) : Ledger :=
  { l.post task .running { l.accounting task with ctxSwitchTime := now' } with running := task }

/-- What PendSV does when it finds this task queued. -/
def afterPendsv (queued : TaskPtr) (now now' : AbsoluteTime) : Ledger :=
  if queued = l.running then l else (l.stop now).resume queued now'

/-- What a system call of the running task does, as far as the ledger goes. -/
def afterCall (number : Word) (args : SyscallArgs) : Ledger :=
  if number = syscallCreateTask then l.enter .sleeping
  else if number = syscallKill then l.post args.pid .complete (l.accounting args.pid)
  else if number = syscallDie then l.post l.running .complete (l.accounting l.running)
  else l

theorem created_afterPendsv (created : l.Created l.running) (queued : l.Created task)
    (now now' : AbsoluteTime) :
    (l.afterPendsv task now now').Created (l.afterPendsv task now now').running := by
  unfold afterPendsv
  split_ifs
  · exact created
  · exact (l.created_stop task now).mpr queued

theorem created_afterCall (created : l.Created l.running) (number : Word) (args : SyscallArgs) :
    (l.afterCall number args).Created (l.afterCall number args).running := by
  unfold afterCall
  split_ifs
  · exact Nat.lt_succ_of_lt created
  · exact created
  · exact created
  · exact created

end Ledger

/-- The kernel has this ledger, its tasks have their pids, and nothing but tasks that were
created is queued or asked for. -/
structure Settled (l : Ledger) (kernel : Kernel) : Prop where
  shows : kernel.ledger = l
  bound : l.maxPid ≤ configMaxTasks
  pids : ∀ task, l.Created task → (kernel.taskList task).pid = task
  carried : Carries l.Created kernel.lists
  queued : l.Created kernel.queued

variable {α β : Type} {l : Ledger} {task : TaskPtr} {returns : α → Prop} {kernel kernel' : Kernel}

theorem Settled.maxPid (settled : Settled l kernel) : kernel.currentMaxPid = l.maxPid :=
  congrArg Ledger.maxPid settled.shows

theorem Settled.running (settled : Settled l kernel) : kernel.running = l.running :=
  congrArg Ledger.running settled.shows

theorem Settled.status (settled : Settled l kernel) (task : TaskPtr) :
    (kernel.taskList task).taskStatus = l.status task :=
  congrFun (congrArg Ledger.status settled.shows) task

theorem Settled.accounting (settled : Settled l kernel) (task : TaskPtr) :
    (kernel.taskList task).accounting = l.accounting task :=
  congrFun (congrArg Ledger.accounting settled.shows) task

/-! ## Statements that write elsewhere -/

/-- Everything that makes a kernel settled. -/
def books (kernel : Kernel) : (TaskPtr → Task) × (Nat → Core) × Nat × Pid × ListStore TaskPtr :=
  (kernel.taskList, kernel.cores, kernel.cpuid, kernel.currentMaxPid, kernel.lists)

private theorem booksBeside : BesideSection (fun _ => True) books := ⟨fun _ _ _ _ => rfl, trivial⟩

theorem settled_of_books (same : books kernel' = books kernel) (settled : Settled l kernel) :
    Settled l kernel' := by
  simp only [books, Prod.mk.injEq] at same
  obtain ⟨table, cores, cpuid, counter, lists⟩ := same
  obtain ⟨shows, bound, pids, carried, queued⟩ := settled
  refine ⟨?_, bound, ?_, ?_, ?_⟩
  · rw [← shows]
    simp only [Kernel.ledger, Kernel.running, table, cores, cpuid, counter]
  · rw [table]
    exact pids
  · rw [lists]
    exact carried
  · rw [Kernel.queued, cores, cpuid]
    exact queued

theorem yields_settled {program : KernelM α} (keeps : Keeps (fun _ => True) books program) :
    Yields (Settled l) program (fun _ => True) (Settled l) :=
  keeps.triple fun _ _ => settled_of_books

/-! ## Statements that write the table -/

/-- A write to an entry of the table is posted. -/
theorem settled_update {record : Task} {status : TaskStatus} {accounting : Accounting}
    (settled : Settled l kernel) (pid : record.pid = (kernel.taskList task).pid)
    (written : record.taskStatus = status) (charged : record.accounting = accounting) :
    Settled (l.post task status accounting)
      { kernel with taskList := Function.update kernel.taskList task record } := by
  subst written charged
  obtain ⟨rfl, bound, pids, carried, queued⟩ := settled
  refine ⟨?_, bound, ?_, carried, queued⟩
  · simp only [Kernel.ledger, Ledger.post, Ledger.mk.injEq]
    refine ⟨trivial, rfl, funext fun other => ?_, funext fun other => ?_⟩
    · rcases eq_or_ne other task with rfl | different
      · simp
      · simp [different]
    · rcases eq_or_ne other task with rfl | different
      · simp
      · simp [different]
  · intro other created
    dsimp only
    rcases eq_or_ne other task with rfl | different
    · rw [Function.update_self, pid]
      exact pids other created
    · rw [Function.update_of_ne different]
      exact pids other created

theorem yields_post {change : Task → Task} {status : TaskStatus} {accounting : Accounting}
    (fits : ∀ record, record.taskStatus = l.status task → record.accounting = l.accounting task →
      (change record).pid = record.pid ∧ (change record).taskStatus = status ∧
        (change record).accounting = accounting) :
    Yields (Settled l) (storeTask task change) (fun _ => True)
      (Settled (l.post task status accounting)) := by
  apply triple_storeTask trivial
  intro _ kernel settled
  obtain ⟨pid, written, charged⟩ :=
    fits (kernel.taskList task) (settled.status task) (settled.accounting task)
  exact settled_update settled pid written charged

/-- Deadlines are not on the ledger. -/
theorem yields_setDeadline (task : TaskPtr) (deadline : AbsoluteTime) :
    Yields (Settled l) (storeTask task fun record => { record with nextRunTime := deadline })
      (fun _ => True) (Settled l) := by
  have posted : Yields (Settled l) (storeTask task fun record => { record with nextRunTime := deadline })
      (fun _ => True) (Settled (l.post task (l.status task) (l.accounting task))) :=
    yields_post fun record status accounting => ⟨rfl, status, accounting⟩
  rwa [Ledger.post_same] at posted

/-! ## Queues -/

theorem yields_onLists {call : ListM TaskPtr α}
    (yields : Yields (Carries l.Created) call returns (Carries l.Created)) :
    Yields (Settled l) (onLists call) returns (Settled l) := by
  apply triple_onLists fun _ => trivial
  intro kernel result lists settled called
  obtain ⟨fits, carried⟩ := yields.ok settled.carried called
  exact ⟨fits, settled.shows, settled.bound, settled.pids, carried, settled.queued⟩

/-- A call that is put on the record first. -/
private theorem yields_recorded (event : ListStore TaskPtr → ListCall) {call : ListM TaskPtr α}
    (yields : Yields (Carries l.Created) call returns (Carries l.Created)) :
    Yields (Settled l) (do recordCall (event (← get).lists); onLists call) returns (Settled l) := by
  have recorded (call : ListCall) : Keeps (fun _ => True) books (recordCall call) :=
    keeps_modify fun _ => rfl
  apply triple_get
  intro kernel settled
  exact triple_bind ((yields_settled (recorded _)).at settled) fun _ _ => yields_onLists yields

section Tasking

variable [Malloc]

/-- The head of a queue is a task, even if the queue is empty and its head pointer dangles. -/
private theorem settled_queues (l : Ledger) : QueueSteps (fun _ => True) (Settled l) l.Created where
  taskIndex := trivial
  listFault _ := trivial
  getHead _ queue settled _ := (yields_recorded (.getHead · queue) (yields_listGetHead queue)).at settled
  remove _ queue _ item settled _ _ :=
    (yields_recorded (.remove · queue item) (yields_listRemove queue item)).at settled
  rotate _ settled := (yields_onLists (yields_listRotate _)).at settled
  append _ _ settled created := (yields_onLists (yields_listAppend created _)).at settled
  prepend _ _ settled created := (yields_onLists (yields_listPrepend created _)).at settled
  insertHead _ _ settled created _ := (yields_onLists (yields_listInsertHead created _)).at settled
  insertSorted _ _ sortFn settled created _ :=
    (yields_onLists (yields_listInsertSorted created _ sortFn)).at settled

variable [PicoSdk]

/-- Only a task that was created is chosen. -/
theorem settled_steps (l : Ledger) :
    SchedulerSteps (fun _ => True) (Settled l) (Settled l) l.Created where
  toQueueSteps := settled_queues l
  setDeadline := yields_setDeadline
  observe _ := yields_settled (keeps_modify fun _ => rfl)
  enter := yields_settled (keeps_enter booksBeside)
  leave := yields_settled (keeps_exit booksBeside)

omit [PicoSdk] [Malloc] in
/-- A task that was created may be asked for. -/
theorem settled_requesting (settled : Settled l kernel) (created : l.Created task) :
    Settled l (kernel.requesting (kernel.taskList task).pid) := by
  rw [settled.pids task created]
  obtain ⟨rfl, bound, pids, carried, -⟩ := settled
  refine ⟨?_, bound, pids, carried, ?_⟩
  · simp [Kernel.ledger, Kernel.running, Kernel.requesting]
  · simpa [Kernel.queued, Kernel.requesting] using created

omit [Malloc] in
theorem yields_queueContextSwitch (task : TaskPtr) (created : l.Created task) :
    Yields (Settled l) (internalQueueContextSwitch task) (fun _ => True) (Settled l) :=
  triple_queueContextSwitch trivial (yields_settled (keeps_enter booksBeside))
    (fun _ settled _ => settled_requesting settled created) (yields_settled (keeps_exit booksBeside))

/-! ## A new task -/

/-- The pid of a new task is taken, its entry is not filled in yet. -/
private def Reserved (l : Ledger) (kernel : Kernel) : Prop :=
  kernel.currentMaxPid = l.maxPid + 1 ∧ Settled l { kernel with currentMaxPid := l.maxPid }

omit [PicoSdk] [Malloc] in
private theorem reserved_of_books (same : books kernel' = books kernel) (reserved : Reserved l kernel) :
    Reserved l kernel' := by
  simp only [books, Prod.mk.injEq] at same
  obtain ⟨table, cores, cpuid, counter, lists⟩ := same
  refine ⟨counter.trans reserved.1, settled_of_books ?_ reserved.2⟩
  simp only [books, table, cores, cpuid, lists]

omit [PicoSdk] [Malloc] in
private theorem settled_of_reserved {record : Task} {status : TaskStatus}
    (reserved : Reserved l kernel) (inside : l.maxPid < configMaxTasks)
    (pid : record.pid = l.maxPid) (written : record.taskStatus = status)
    (charged : record.accounting = { l.accounting l.maxPid with runTicks := 0 }) :
    Settled (l.enter status) { kernel with
      taskList := Function.update kernel.taskList l.maxPid record } := by
  obtain ⟨counter, shows, bound, pids, carried, queued⟩ := reserved
  refine ⟨?_, inside, ?_, fun item held => Nat.lt_succ_of_lt (carried item held),
    Nat.lt_succ_of_lt queued⟩
  · have running : kernel.running = l.running := congrArg Ledger.running shows
    have statuses : ∀ task, (kernel.taskList task).taskStatus = l.status task :=
      congrFun (congrArg Ledger.status shows)
    have accounts : ∀ task, (kernel.taskList task).accounting = l.accounting task :=
      congrFun (congrArg Ledger.accounting shows)
    simp only [Kernel.ledger, Ledger.enter, Ledger.post, Ledger.mk.injEq]
    refine ⟨counter, running, funext fun task => ?_, funext fun task => ?_⟩
    · rcases eq_or_ne task l.maxPid with rfl | other
      · simp [written]
      · simp [other, statuses]
    · rcases eq_or_ne task l.maxPid with rfl | other
      · simp [charged]
      · simp [other, accounts]
  · intro task created
    dsimp only
    rcases eq_or_ne task l.maxPid with rfl | other
    · rw [Function.update_self, pid]
    · rw [Function.update_of_ne other]
      exact pids task (Nat.lt_of_le_of_ne (Nat.le_of_lt_succ created) other)

omit [Malloc] in
theorem yields_taskNew (priority : TaskingPriority) :
    Yields (Settled l) (taskingTaskNew priority) (fun task => task = l.maxPid)
      (Settled (l.enter .notReady)) := by
  apply triple_taskNew (yields_settled (keeps_enter booksBeside))
  · intro kernel settled
    have reserved : Reserved l { kernel with currentMaxPid := kernel.currentMaxPid + 1 } := by
      refine ⟨congrArg (· + 1) settled.maxPid, settled_of_books ?_ settled⟩
      simp only [books, settled.maxPid]
    exact ⟨settled.maxPid, reserved⟩
  · exact (keeps_exit booksBeside).triple fun _ _ => reserved_of_books
  · rintro task rfl
    apply triple_storeTask trivial
    intro inside kernel reserved
    have accounting : (kernel.taskList l.maxPid).accounting = l.accounting l.maxPid :=
      reserved.2.accounting l.maxPid
    rw [accounting]
    exact settled_of_reserved reserved inside rfl rfl rfl

/-! ## System calls -/

/-- Whatever pid it is given. -/
theorem yields_kill (pid : Pid) (now : AbsoluteTime) :
    Yields (Settled l) (internalSyscallKill pid now) (fun _ => True)
      (Settled (l.post pid .complete (l.accounting pid))) := by
  apply (settled_steps (l.post pid .complete (l.accounting pid))).kill yields_queueContextSwitch
  exact yields_post fun record _ accounting => ⟨rfl, rfl, accounting⟩

/-- The task gets the next pid. -/
theorem yields_createTask (args : CreateTaskArgs) (read : ItemsAsTasks) :
    Yields (Settled l) (internalSyscallCreateTask args read) (fun result => result.toNat = l.maxPid)
      (Settled (l.enter .sleeping)) := by
  have created : (l.enter .sleeping).Created l.maxPid := Nat.lt_succ_self l.maxPid
  apply (settled_steps (l.enter .sleeping)).createTask (yields_taskNew _)
  · rintro task rfl
    rw [← Ledger.enter_post l .notReady .sleeping]
    exact yields_post fun record _ accounting => ⟨rfl, rfl, accounting⟩
  · rintro task rfl
    exact created
  · rintro task kernel rfl settled inside
    rw [settled.pids _ created, BitVec.toNat_ofNat, Nat.mod_eq_of_lt (Nat.lt_trans inside (by decide))]

/-- Any system call, with any arguments. -/
theorem yields_syscall (created : l.Created l.running) (number : Word) (args : SyscallArgs)
    (now : AbsoluteTime) :
    Yields (Settled l) (internalSyscall l.running number args now)
      (fun result => number = syscallCreateTask → result.toNat = l.maxPid)
      (Settled (l.afterCall number args)) := by
  have others {number : Word} {program : KernelM Word} {l' : Ledger}
      (different : number ≠ syscallCreateTask)
      (yields : Yields (Settled l) program (fun _ => True) (Settled l')) :
      Yields (Settled l) program (fun result => number = syscallCreateTask → result.toNat = l.maxPid)
        (Settled l') :=
    yields.returns_imp fun _ _ same => absurd same different
  apply triple_internalSyscall
  case die =>
    rintro rfl
    apply others (by decide)
    apply triple_die trivial
    intro kernel settled _
    rw [settled.pids l.running created]
    exact (yields_kill l.running now).at settled
  case yield =>
    rintro rfl
    exact others (by decide) ((settled_steps l).yield yields_queueContextSwitch now)
  case kill =>
    rintro rfl
    exact others (by decide) (yields_kill args.pid now)
  case sleepUntil =>
    rintro rfl
    exact others (by decide) ((settled_steps l).syscallSleepUntil yields_queueContextSwitch created _ now _)
  case createTask =>
    rintro rfl
    exact (yields_createTask args.createTask args.itemsAsTasks).returns_imp fun _ fits _ => fits
  case taskNextTick =>
    rintro rfl
    exact yields_taskNextTick args.pid now args.itemsAsTasks
  case unknown =>
    intro unknown
    have beyond {known : Word} : known ≤ syscallTaskNextTick → number ≠ known := ne_of_unknown unknown
    rw [Ledger.afterCall, if_neg (beyond (by decide)), if_neg (beyond (by decide)),
      if_neg (beyond (by decide))]
    exact others (beyond (by decide)) (triple_pure trivial)

/-! ## Handlers -/

theorem yields_svcall (created : l.Created l.running) (stackptr number : Word) (args : SyscallArgs)
    (now : AbsoluteTime) :
    Yields (Settled l) (svcallHandler stackptr number args now)
      (fun result => number = syscallCreateTask → result.toNat = l.maxPid)
      (Settled (l.afterCall number args)) := by
  apply triple_svcall
  · intro kernel settled
    rw [settled.running]
    exact (yields_syscall created number args now).at settled
  · exact fun kernel settled => settled_of_books (by rfl) settled

theorem yields_systick (stackptr : Word) (now now' now'' : AbsoluteTime) :
    Yields (Settled l) (systickHandler stackptr now now' now'') (fun _ => True) (Settled l) :=
  (settled_steps l).systick yields_queueContextSwitch (fun _ settled => settled) stackptr now now' now''

omit [PicoSdk] [Malloc] in
private theorem settled_stop (settled : Settled l kernel) (stackptr : Word) (now : AbsoluteTime) :
    Settled (l.stop now) { kernel with
      taskList := Function.update kernel.taskList l.running
        (Scheduler.stopped stackptr now (kernel.taskList l.running)) } := by
  rw [Scheduler.stopped, Ledger.stop, ← settled.status, ← settled.accounting]
  split_ifs
  · exact settled_update settled rfl rfl rfl
  · have same : Settled (l.post l.running (l.status l.running) (l.accounting l.running)) { kernel with
        taskList := Function.update kernel.taskList l.running
          { kernel.taskList l.running with stackptr } } :=
      settled_update settled rfl (settled.status _) (settled.accounting _)
    rwa [Ledger.post_same] at same

omit [PicoSdk] [Malloc] in
private theorem settled_resume (settled : Settled l kernel) (created : l.Created task)
    (now' : AbsoluteTime) :
    Settled (l.resume task now') { kernel with
      taskList := Function.update kernel.taskList task
        (Scheduler.resumed now' (kernel.taskList task))
      cores := Function.update kernel.cores kernel.cpuid
        { kernel.cores kernel.cpuid with currentlyRunningPid := (kernel.taskList task).pid } } := by
  have posted : Settled (l.post task .running { l.accounting task with ctxSwitchTime := now' })
      { kernel with taskList := Function.update kernel.taskList task
                      (Scheduler.resumed now' (kernel.taskList task)) } := by
    rw [← settled.accounting]
    exact settled_update settled rfl rfl rfl
  obtain ⟨shows, bound, pids, carried, queued⟩ := posted
  rw [settled.pids task created]
  refine ⟨?_, bound, pids, carried, ?_⟩
  · rw [Ledger.resume, ← shows]
    simp only [Kernel.ledger, Kernel.running, Function.update_self]
  · rw [Kernel.queued]
    dsimp only
    rw [Function.update_self]
    exact queued

omit [Malloc] in
/-- PendSV goes by the table and the queued pid. -/
theorem settled_pendsv {stackptr newSp : Word} {now now' : AbsoluteTime} (settled : Settled l kernel)
    (created : l.Created l.running)
    (run : pendsvHandlerC stackptr now now' kernel = .ok newSp kernel') :
    Settled (l.afterPendsv kernel.queued now now') kernel' := by
  have inTable {task : TaskPtr} (created : l.Created task) : task < configMaxTasks :=
    Nat.lt_of_lt_of_le created settled.bound
  have running : kernel.running < configMaxTasks := settled.running ▸ inTable created
  have pid : (kernel.taskList kernel.running).pid = l.running := by
    rw [settled.running]
    exact settled.pids l.running created
  rw [Ledger.afterPendsv]
  split_ifs with same
  · rw [KernelRefinement.pendsvHandlerC_stay running (same.trans pid.symm)] at run
    cases run
    have kept : books { kernel with primask := true } = books kernel := rfl
    exact settled_of_books kept settled
  · have different : kernel.queued ≠ (kernel.taskList kernel.running).pid := fun equal =>
      same (equal.trans pid)
    rw [KernelRefinement.pendsvHandlerC_switch running (inTable settled.queued) different _ rfl] at run
    cases run
    have stopped := settled_stop settled stackptr now
    rw [← settled.running] at stopped
    have next : (l.stop now).Created kernel.queued := (Ledger.created_stop l _ now).mpr settled.queued
    refine settled_of_books ?_ (settled_resume stopped next now')
    rfl

/-- Every handler. -/
theorem settled_handle {action : Action} {result : Word} (settled : Settled l kernel)
    (created : l.Created l.running) (run : handle action kernel = .ok result kernel') :
    ∃ l' : Ledger, Settled l' kernel' ∧ l'.Created l'.running := by
  cases action with
  | svc stackptr number args now =>
    exact ⟨_, ((yields_svcall created stackptr number args now).ok settled run).2,
      l.created_afterCall created number args⟩
  | systick stackptr now now' now'' =>
    exact ⟨l, ((yields_systick stackptr now now' now'').ok settled run).2, created⟩
  | takePendsv =>
    cases run
    exact ⟨l, settled_of_books (by rfl) settled, created⟩
  | pendsv stackptr now now' =>
    obtain ⟨newSp, switched, handler, finish⟩ := bind_ok.mp run
    cases finish
    exact ⟨_, settled_of_books (by rfl) (settled_pendsv settled created handler),
      l.created_afterPendsv _ created settled.queued now now'⟩

end Tasking

end Gkrtos
