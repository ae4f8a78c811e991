import Gkrtos.Runs

/-! Scheduling is a round robin that ignores user properties. What the creator of
a task chose (priority, function, frequency, stack) and where the stack pointers
of the tasks are has no influence on which task is queued, chosen, woken or
switched to. The addresses of the list items have one by what `queue_sort` reads
behind them, and no other. What is left of a scheduler when this is taken away
goes on by itself, so that two kernels which differ in nothing else stay side by
side. -/
namespace Gkrtos
open KernelRefinement

/-- The entry of a task without what its creator chose and its stack pointer. -/
def Task.plain (task : Task) : Task :=
  { task with
    priority := 0
    currentPriority := 0
    function := 0
    runFrequency := 0
    stackptr := 0
    stackbase := 0 }

/-- A handler run without them. What `queue_sort` reads behind the list items stays:
behind other items it may be something else, and put a sleeper in another place. -/
def Action.plain : Action → Action
  | .svc _ syscall args now => .svc 0 syscall { args with createTask := ⟨0, 0, 0, 0⟩ } now
  | .systick _ now now' now'' => .systick 0 now now' now''
  | .takePendsv => .takePendsv
  | .pendsv _ now now' => .pendsv 0 now now'

namespace Scheduler

def plain (s : Scheduler) : Scheduler := { s with table := fun task => (s.table task).plain }

variable {s : Scheduler} {task : TaskPtr} {now now' now'' : AbsoluteTime}

theorem plain_change {f g : Task → Task} (same : ∀ record, (f record).plain = g record.plain) :
    (s.change task f).plain = s.plain.change task g := by
  have table : (s.change task f).plain.table = (s.plain.change task g).table := by
    funext other
    show ((s.change task f).table other).plain = _
    rw [change_table, change_table]
    split
    · exact same _
    · rfl
  exact congrArg (fun table => { s with table }) table

theorem plain_setDeadline (deadline : AbsoluteTime) :
    (s.setDeadline task deadline).plain = s.plain.setDeadline task deadline :=
  plain_change fun _ => rfl

theorem plain_complete : (s.complete task).plain = s.plain.complete task :=
  plain_change fun _ => rfl

theorem plain_dequeue : (s.dequeue task).plain = s.plain.dequeue task := by
  by_cases awake : s.deadline task = nilTime
  · have awake' : s.plain.deadline task = nilTime := awake
    rw [dequeue_awake awake, dequeue_awake awake']
    rfl
  · have asleep' : s.plain.deadline task ≠ nilTime := awake
    rw [dequeue_asleep awake, dequeue_asleep asleep']
    rfl

theorem plain_request : (s.request task).plain = s.plain.request task := rfl

/-- A switch stores a stack pointer, which is not looked at. -/
theorem plain_contextSwitch (stackptr : Word) :
    (s.contextSwitch stackptr now now').plain = s.plain.contextSwitch 0 now now' := by
  have stop : ∀ record, (stopped stackptr now record).plain = stopped 0 now record.plain := by
    intro record
    by_cases running : record.taskStatus = .running
    · have running' : record.plain.taskStatus = .running := running
      rw [stopped, if_pos running, stopped, if_pos running']
      rfl
    · have other' : record.plain.taskStatus ≠ .running := running
      rw [stopped, if_neg running, stopped, if_neg other']
      rfl
  have tables : ((s.change s.running (stopped stackptr now)).change s.queued (resumed now')).plain =
      (s.plain.change s.running (stopped 0 now)).change s.queued (resumed now') := by
    rw [plain_change (g := resumed now') fun _ => rfl, plain_change stop]
  exact congrArg (fun switched : Scheduler => { switched with running := s.pid s.queued }) tables

theorem plain_pendsv (stackptr : Word) :
    (s.pendsv stackptr now now').plain = s.plain.pendsv 0 now now' := by
  have switched := @plain_contextSwitch s now now' stackptr
  by_cases same : s.queued = s.pid s.running
  · have same' : s.plain.queued = s.plain.pid s.plain.running := same
    rw [pendsv, if_pos same, pendsv, if_pos same']
  · have different' : ¬ s.plain.queued = s.plain.pid s.plain.running := same
    rw [pendsv, if_neg same, pendsv, if_neg different', ← switched]
    rfl

variable [PicoSdk]

theorem plain_select : (s.select now).plain = s.plain.select now := by
  cases due : s.due now with
  | none =>
    have due' : s.plain.due now = none := due
    rw [select_idle due, select_idle due']
    rfl
  | some first =>
    have due' : s.plain.due now = some first := due
    rw [select_due due, select_due due', ← plain_setDeadline]
    rfl

theorem plain_yield : (s.yield now).plain = s.plain.yield now := by
  rw [yield, plain_request, plain_select]
  rfl

/-- Where a task goes depends on deadlines only. -/
theorem plain_enqueue (read : ItemsAsTasks) : (s.enqueue task read).plain = s.plain.enqueue task read := by
  by_cases awake : s.deadline task = nilTime
  · have awake' : s.plain.deadline task = nilTime := awake
    rw [enqueue_awake awake, enqueue_awake awake']
    rfl
  · have asleep' : s.plain.deadline task ≠ nilTime := awake
    by_cases first : s.GoesFirst task
    · have first' : s.plain.GoesFirst task := first
      rw [enqueue_first awake first, enqueue_first asleep' first']
      rfl
    · have behind' : ¬ s.plain.GoesFirst task := first
      rw [enqueue_behind awake first, enqueue_behind asleep' behind']
      rfl

theorem plain_sleepUntil (deadline : AbsoluteTime) (read : ItemsAsTasks) :
    (s.sleepUntil task deadline now read).plain = s.plain.sleepUntil task deadline now read := by
  rw [sleepUntil, plain_yield, postpone, plain_enqueue, plain_setDeadline, plain_dequeue]
  rfl

theorem plain_kill (victim : Pid) : (s.kill victim now).plain = s.plain.kill victim now := by
  have choice : (s.plain.complete victim).choice now = (s.complete victim).choice now := by
    rw [← plain_complete]
    rfl
  rw [kill, plain_request, plain_dequeue, plain_select, plain_complete, ← choice]
  rfl

omit [PicoSdk] in
theorem plain_newborn (pid : Pid) (args : CreateTaskArgs) :
    (s.change task (newborn pid args)).plain =
      s.plain.change task (Task.plain ∘ newborn pid SyscallArgs.zero.createTask) :=
  plain_change fun _ => rfl

/-- New entries are alike. -/
theorem plain_createTask (args args' : CreateTaskArgs) (read : ItemsAsTasks) :
    (s.createTask args read).plain = (s.plain.createTask args' read).plain := by
  have entered : ({ s with maxPid := s.maxPid + 1 }.change s.maxPid (newborn s.maxPid args)).plain =
      ({ s.plain with maxPid := s.maxPid + 1 }.change s.maxPid (newborn s.maxPid args')).plain := by
    rw [plain_newborn, plain_newborn]
    rfl
  rw [createTask, plain_enqueue, entered, ← plain_enqueue]
  rfl

theorem plain_systick : (s.systick now now' now'').plain = s.plain.systick now now' now'' := by
  by_cases required : s.RescheduleRequired now now'
  · have required' : s.plain.RescheduleRequired now now' := required
    rw [systick, if_pos required, systick, if_pos required', plain_yield]
  · have enough' : ¬ s.plain.RescheduleRequired now now' := required
    rw [systick, if_neg required, systick, if_neg enough']

theorem plain_syscall (number : Word) (args : SyscallArgs) : (s.syscall number args now).plain =
    (s.plain.syscall number { args with createTask := SyscallArgs.zero.createTask } now).plain := by
  unfold syscall
  split
  · rw [← plain_kill]
    rfl
  split
  · rw [← plain_yield]
    rfl
  split
  · rw [← plain_kill]
    rfl
  split
  · rw [← plain_sleepUntil]
    rfl
  split
  · exact plain_createTask _ _ _
  · rfl

/-- The step lemma: what is left goes on by itself. -/
theorem plain_step (action : Action) : (s.step action).plain = (s.plain.step action.plain).plain := by
  cases action with
  | svc stackptr number args now => exact plain_syscall number args
  | systick stackptr now now' now'' =>
    show (Scheduler.systick _ now now' now'').plain = (Scheduler.systick _ now now' now'').plain
    rw [plain_systick, plain_systick]
    rfl
  | takePendsv => rfl
  | pendsv stackptr now now' =>
    have switched := @plain_pendsv { s with trace := [] } now now' stackptr
    have switched' := @plain_pendsv { s.plain with trace := [] } now now' 0
    have both := switched.trans switched'.symm
    exact congrArg (fun switched : Scheduler => { switched with taken := false }) both

variable {s' : Scheduler} {action action' : Action}

/-- So two schedulers that differ in nothing else stay side by side. -/
theorem step_alike (alike : s.plain = s'.plain) (sameAction : action.plain = action'.plain) :
    (s.step action).plain = (s'.step action').plain := by
  rw [plain_step, alike, sameAction, ← plain_step]

omit [PicoSdk] in
/-- What may be done, and who is alive afterwards under which mask, is the same. -/
theorem rules_alike (alike : s.plain = s'.plain) (sameAction : action.plain = action'.plain)
    (live : Finset Pid) (mask : InterruptMask) :
    (s.Legal live action ↔ s'.Legal live action') ∧ s.liveAfter live action = s'.liveAfter live action' ∧
      s.maskAfter mask action = s'.maskAfter mask action' := by
  have legal : ∀ (t : Scheduler) action, t.Legal live action ↔ t.plain.Legal live action.plain := by
    intro t action
    cases action <;> rfl
  have alive : ∀ (t : Scheduler) action, t.liveAfter live action = t.plain.liveAfter live action.plain := by
    intro t action
    cases action <;> rfl
  have masked : ∀ (t : Scheduler) action, t.maskAfter mask action = t.plain.maskAfter mask action.plain := by
    intro t action
    cases action <;> rfl
  rw [legal, alive, masked, alike, sameAction, ← legal, ← alive, ← masked]
  exact ⟨Iff.rfl, rfl, rfl⟩

/-- Two kernels start alike when they have as many tasks. -/
theorem created_alike {tasks tasks' : List CreateTaskArgs} (count : tasks.length = tasks'.length)
    (alike : s.plain = s'.plain) (live : Finset Pid) :
    (created tasks live s).1 = (created tasks' live s').1 ∧
      (created tasks live s).2.plain = (created tasks' live s').2.plain := by
  induction tasks generalizing tasks' live s s' with
  | nil =>
    obtain rfl : tasks' = [] := List.eq_nil_of_length_eq_zero count.symm
    exact ⟨rfl, alike⟩
  | cons args rest ih =>
    cases tasks' with
    | nil => cases count
    | cons args' rest' =>
      have maxPid : s.plain.maxPid = s'.plain.maxPid := congrArg Scheduler.maxPid alike
      have counted : s.maxPid = s'.maxPid := maxPid
      have entered : (s.createTask args .zero).plain = (s'.createTask args' .zero).plain := by
        rw [plain_createTask args args', alike, ← plain_createTask args' args']
      rw [created, created, counted]
      exact ih (Nat.succ.inj count) entered _

theorem atStart_alike {tasks tasks' : List CreateTaskArgs} (count : tasks.length = tasks'.length)
    (spinTask spinTask' spinTaskStack spinTaskStack' : Word) (now : AbsoluteTime) :
    (atStart spinTask spinTaskStack tasks now).1 = (atStart spinTask' spinTaskStack' tasks' now).1 ∧
      (atStart spinTask spinTaskStack tasks now).2.plain =
        (atStart spinTask' spinTaskStack' tasks' now).2.plain := by
  have spinning : (noTasks.createTask ⟨taskingPriorityUserBase, spinTask, spinTaskStack, 0⟩ .zero).plain =
      (noTasks.createTask ⟨taskingPriorityUserBase, spinTask', spinTaskStack', 0⟩ .zero).plain := by
    rw [plain_createTask _ ⟨0, 0, 0, 0⟩, ← plain_createTask _ ⟨0, 0, 0, 0⟩]
  obtain ⟨live, tables⟩ := created_alike count spinning {1}
  have launching : ∀ t : Scheduler, (launched t now).plain = launched t.plain now := by
    intro t
    have marked := @plain_change t 1 (fun task => { task with taskStatus := .running })
      (fun task => { task with taskStatus := .running }) fun _ => rfl
    have timed := @plain_change (t.change 1 fun task => { task with taskStatus := .running }) 1
      (fun task => { task with accounting := { task.accounting with ctxSwitchTime := now } })
      (fun task => { task with accounting := { task.accounting with ctxSwitchTime := now } }) fun _ => rfl
    rw [marked] at timed
    exact congrArg (fun launched : Scheduler => { launched with running := 1, queued := 1 }) timed
  refine ⟨live, ?_⟩
  show (launched _ now).plain = (launched _ now).plain
  rw [launching, tables, ← launching]

end Scheduler

/-! ## Two kernels -/

/-- The queues, the slot, the switch under way, the times and states of all tasks
and what the last handler did are the same. -/
structure SameSchedule (system system' : System) : Prop where
  live : system.live = system'.live
  primask : system.kernel.primask = system'.kernel.primask
  schedule : (view system.kernel).plain = (view system'.kernel).plain

section Runs

variable [PicoSdk]

/-- The run lemma. The two kernels may use different allocators. -/
theorem alike_run (malloc malloc' : Malloc) {mask : InterruptMask} {system system' final : System}
    {s s' : Scheduler} {actions actions' : List Action} (good : Good mask system s)
    (good' : Good mask system' s') (alike : s.plain = s'.plain) (live : system.live = system'.live)
    (sameActions : actions.map Action.plain = actions'.map Action.plain)
    (run : @System.Runs _ malloc System.Legal actions system final) :
    ∃ final', @System.Runs _ malloc' System.Legal actions' system' final' ∧
      SameSchedule final final' := by
  induction actions generalizing mask system system' s s' actions' with
  | nil =>
    obtain rfl : system = final := run
    obtain rfl : actions' = [] := List.map_eq_nil_iff.mp sameActions.symm
    refine ⟨system', rfl, ?_⟩
    constructor
    case live => exact live
    case primask => rw [good.outside.mask, good'.outside.mask]
    case schedule =>
      rw [good.outside.shows, good'.outside.shows]
      exact alike
  | cons action rest ih =>
    cases actions' with
    | nil => cases sameActions
    | cons action' rest' =>
      obtain ⟨sameAction, sameRest⟩ := List.cons.inj sameActions
      obtain ⟨legal, next, stepped, run⟩ := run
      obtain ⟨next₁, stepped₁, good₁, live₁⟩ := @step_simulates _ _ _ malloc _ _ good legal
      obtain rfl : next = next₁ := Option.some.inj (stepped.symm.trans stepped₁)
      obtain ⟨rules, alive, masks⟩ := Scheduler.rules_alike alike sameAction system.live mask
      have legal' : system'.Legal action' := by
        rw [legal_iff good', ← live]
        exact rules.mp ((legal_iff good).mp legal)
      obtain ⟨next', stepped', good₂, live₂⟩ := @step_simulates _ _ _ malloc' _ _ good' legal'
      have nextLive : next.live = next'.live := by
        rw [live₁, live₂, alive, live]
      rw [← masks] at good₂
      obtain ⟨final', run', same⟩ :=
        ih good₁ good₂ (Scheduler.step_alike alike sameAction) nextLive sameRest run
      exact ⟨final', ⟨legal', next', stepped', run'⟩, same⟩

end Runs

section Example

attribute [local instance] PicoSdk.reference Malloc.reference

/-- An allocator that hands out higher addresses than the reference. -/
@[reducible] private def highMalloc : Malloc where
  malloc allocated := @Malloc.malloc Malloc.reference (1000 :: allocated)
  malloc_fresh allocated member :=
    @Malloc.malloc_fresh Malloc.reference (1000 :: allocated) (List.mem_cons_of_mem 1000 member)
  malloc_ne_null allocated := @Malloc.malloc_ne_null Malloc.reference (1000 :: allocated)

/-- A task that creates another one, and then sleeps. -/
private def busyRun (priority : TaskingPriority) (stackptr : Word) : List Action := [
  .svc stackptr syscallYield .zero 100, .takePendsv, .pendsv stackptr 101 102,
  .svc stackptr syscallCreateTask { SyscallArgs.zero with createTask := ⟨priority, 5, stackptr, 9⟩ } 200,
  .svc stackptr syscallSleepUntil { SyscallArgs.zero with milliseconds := 10000 } 300, .takePendsv,
  .pendsv stackptr 301 302]

private def busyResult : Option (InterruptMask × Finset Pid × Scheduler) :=
  Scheduler.run (fun _ live s action => s.Legal live action) (busyRun 3 0x20001000)
    (false, atStart 0 0 [⟨3, 0x10000601, 0x20002000, 0⟩] 0)

private theorem busyResult_isSome : busyResult.isSome := by decide +kernel

end Example

end Gkrtos
