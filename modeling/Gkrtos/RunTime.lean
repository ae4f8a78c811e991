import Mathlib.Order.Interval.Finset.Nat
import Gkrtos.Ledger
import Gkrtos.Runs
import Gkrtos.Turns

/-! Run-time accounting is bounded by real time. The tasks have the core in turns that
follow each other, whoever is switched to and whatever system calls are made. A task is
charged the whole milliseconds of each of its turns, unless it was killed in it; so what
is on its account falls short of the time it had by less than a millisecond a turn, and all
accounts together stay within the time since the start. -/
namespace Gkrtos
open Stateful Turns KernelRefinement

variable {start : AbsoluteTime} {l : Ledger} {live : Finset Pid} {past : List (Turn Pid)}

/-! ## Turns of a run -/

/-- A switch of tasks by PendSV: the task that is switched out, its `ctx_switch_time`,
whether it is still marked as running, the time it is charged up to, and the time that
becomes the `ctx_switch_time` of the task that is switched in. -/
structure Switch where
  task : Pid
  ctxSwitchTime : AbsoluteTime
  running : Bool
  currentTime : AbsoluteTime
  resumedTime : AbsoluteTime
  deriving DecidableEq, Repr

def Switch.turn (switch : Switch) : Turn Pid where
  holder := switch.task
  began := switch.ctxSwitchTime.toNat
  ended := switch.currentTime.toNat
  counted := switch.running

/-- The clock readings of the switch, in the order in which they are made. -/
def Switch.times (switch : Switch) : List AbsoluteTime := [switch.currentTime, switch.resumedTime]

/-- PendSV switches if another task is queued than the running one. -/
def System.switched (system : System) : Action → Option Switch
  | .pendsv _ now now' =>
    if system.kernel.queued = (system.kernel.taskList system.kernel.running).pid then none
    else some {
      task := system.kernel.running
      ctxSwitchTime :=
        (system.kernel.taskList system.kernel.running).accounting.ctxSwitchTime
      running := (system.kernel.taskList system.kernel.running).taskStatus = .running
      currentTime := now
      resumedTime := now' }
  | _ => none

section Runs

variable [PicoSdk] [Malloc]

/-- The switches of a run. -/
def System.switches : List Action → System → List Switch
  | [], _ => []
  | action :: rest, system => (system.switched action).toList ++
    match system.step action with
    | some next => System.switches rest next
    | none => []

/-- The turns that ended in a run. -/
def System.turns (actions : List Action) (system : System) : List (Turn Pid) :=
  (System.switches actions system).map Switch.turn

/-- The clock readings of its switches. -/
def System.switchTimes (actions : List Action) (system : System) : List AbsoluteTime :=
  (System.switches actions system).flatMap Switch.times

end Runs

/-! ## The ledger and the turns -/

/-- When the running task was switched in. -/
def Ledger.switchedIn (l : Ledger) : AbsoluteTime := (l.accounting l.running).ctxSwitchTime

/-- The accounts agree with the turns so far. The time before the running task was
switched in is taken up by them. -/
structure Charged (start : AbsoluteTime) (past : List (Turn Pid)) (l : Ledger) (live : Finset Pid) :
    Prop where
  running : l.Created l.running
  created : ∀ task ∈ live, l.Created task
  active : l.running ∈ live → l.status l.running = .running
  holders : ∀ turn ∈ past, l.Created turn.holder
  counted : ∀ turn ∈ past, turn.holder ∈ live → turn.counted
  accounts : ∀ task, l.Created task →
    (l.accounting task).runTicks.toNat = charges 1000 (heldBy task past)
  successive : Successive start.toNat past l.switchedIn.toNat

/-- Nobody has had a turn before being created. -/
theorem Charged.heldBy_new (charged : Charged start past l live) : heldBy l.maxPid past = [] := by
  rw [List.eq_nil_iff_forall_not_mem]
  intro turn member
  obtain ⟨earlier, own⟩ := mem_heldBy.mp member
  have created := charged.holders turn earlier
  rw [own] at created
  exact Nat.lt_irrefl _ created

theorem switchedIn_enter (created : l.Created l.running) (status : TaskStatus) :
    (l.enter status).switchedIn = l.switchedIn :=
  congrArg Accounting.ctxSwitchTime (Function.update_of_ne (Nat.ne_of_lt created) _ _)

theorem charged_enter (charged : Charged start past l live) (status : TaskStatus) :
    Charged start past (l.enter status) (insert l.maxPid live) := by
  have weaker {task : TaskPtr} (created : l.Created task) : (l.enter status).Created task :=
    Nat.lt_succ_of_lt created
  have other {task : TaskPtr} (created : l.Created task) : task ≠ l.maxPid := Nat.ne_of_lt created
  have sameStatus : (l.enter status).status l.running = l.status l.running :=
    Function.update_of_ne (other charged.running) _ _
  have sameAccount {task : TaskPtr} (created : l.Created task) :
      (l.enter status).accounting task = l.accounting task :=
    Function.update_of_ne (other created) _ _
  constructor
  case running => exact weaker charged.running
  case created =>
    intro task member
    rcases Finset.mem_insert.mp member with rfl | alive
    · exact Nat.lt_succ_self _
    · exact weaker (charged.created task alive)
  case active =>
    intro alive
    exact sameStatus.trans
      (charged.active (Finset.mem_of_mem_insert_of_ne alive (other charged.running)))
  case holders => exact fun turn member => weaker (charged.holders turn member)
  case counted =>
    intro turn member alive
    exact charged.counted turn member
      (Finset.mem_of_mem_insert_of_ne alive (other (charged.holders turn member)))
  case accounts =>
    intro task created
    rcases Nat.lt_succ_iff_lt_or_eq.mp created with earlier | rfl
    · rw [sameAccount earlier]
      exact charged.accounts task earlier
    · rw [charged.heldBy_new]
      simp [Ledger.enter, Ledger.post, charges]
  case successive =>
    rw [switchedIn_enter charged.running]
    exact charged.successive

theorem accounting_complete (l : Ledger) (task : TaskPtr) :
    (l.post task .complete (l.accounting task)).accounting = l.accounting :=
  Function.update_eq_self task l.accounting

theorem switchedIn_complete (l : Ledger) (task : TaskPtr) :
    (l.post task .complete (l.accounting task)).switchedIn = l.switchedIn := by
  rw [Ledger.switchedIn, accounting_complete]
  rfl

theorem charged_complete (charged : Charged start past l live) (task : TaskPtr) :
    Charged start past (l.post task .complete (l.accounting task)) (live.erase task) := by
  refine ⟨charged.running, fun other alive => charged.created other (Finset.mem_of_mem_erase alive),
    ?_, charged.holders,
    fun turn member alive => charged.counted turn member (Finset.mem_of_mem_erase alive), ?_, ?_⟩
  · intro alive
    obtain ⟨other, alive⟩ := Finset.mem_erase.mp alive
    exact (Function.update_of_ne other _ _).trans (charged.active alive)
  · rw [accounting_complete]
    exact charged.accounts
  · rw [switchedIn_complete]
    exact charged.successive

/-! ## A switch -/

/-- The turn that ends when the running task is charged. -/
def Ledger.turn (l : Ledger) (now : AbsoluteTime) : Turn Pid where
  holder := l.running
  began := l.switchedIn.toNat
  ended := now.toNat
  counted := l.status l.running = .running

section Switch

variable {next : TaskPtr} {now now' : AbsoluteTime}

theorem stop_other {task : TaskPtr} (other : task ≠ l.running) :
    (l.stop now).accounting task = l.accounting task := by
  unfold Ledger.stop
  split
  · exact Function.update_of_ne other _ _
  · rfl

/-- The sum does not wrap around, since no more was charged than time has passed. -/
theorem stop_runTicks (ordered : l.switchedIn ≤ now)
    (room : 1000 * (l.accounting l.running).runTicks.toNat ≤ l.switchedIn.toNat) :
    ((l.stop now).accounting l.running).runTicks.toNat =
      (l.accounting l.running).runTicks.toNat + (l.turn now).charge 1000 := by
  have ordered' : l.switchedIn.toNat ≤ now.toNat := ordered
  have bound := now.toNat_lt
  by_cases active : l.status l.running = .running
  · have duration : (now - (l.accounting l.running).ctxSwitchTime).toNat =
        now.toNat - l.switchedIn.toNat := UInt64.toNat_sub_of_le _ _ ordered
    simp only [Ledger.stop, active, if_true, Ledger.post, Function.update_self, UInt64.toNat_add,
      UInt64.toNat_div, duration, Turn.charge, Turn.duration, Ledger.turn, decide_true]
    apply Nat.mod_eq_of_lt
    have unit : (1000 : UInt64).toNat = 1000 := rfl
    rw [unit]
    omega
  · simp [Ledger.stop, active, Turn.charge, Ledger.turn]

theorem resume_runTicks (task : TaskPtr) :
    ((l.resume next now').accounting task).runTicks = (l.accounting task).runTicks := by
  rcases eq_or_ne task next with rfl | other
  · simp [Ledger.resume, Ledger.post]
  · simp [Ledger.resume, Ledger.post, other]

theorem switchedIn_resume (l : Ledger) (next : TaskPtr) (now' : AbsoluteTime) :
    (l.resume next now').switchedIn = now' := by
  simp [Ledger.switchedIn, Ledger.resume, Ledger.post]

theorem charged_switch (charged : Charged start past l live) (created : l.Created next)
    (ordered : l.switchedIn ≤ now) (ordered' : now ≤ now') :
    Charged start (past ++ [l.turn now]) ((l.stop now).resume next now') live := by
  have room : 1000 * (l.accounting l.running).runTicks.toNat ≤ l.switchedIn.toNat := by
    rw [charged.accounts l.running charged.running]
    exact Nat.le_of_add_left_le (charged.successive.charges_le 1000 l.running)
  have kept (task : TaskPtr) : ((l.stop now).resume next now').Created task ↔ l.Created task :=
    Ledger.created_stop l task now
  constructor
  case running => exact (kept next).mpr created
  case created => exact fun task alive => (kept task).mpr (charged.created task alive)
  case active => exact fun _ => Function.update_self _ _ _
  case holders =>
    intro turn member
    rw [kept]
    rcases List.mem_append.mp member with earlier | last
    · exact charged.holders turn earlier
    · rw [List.mem_singleton.mp last]
      exact charged.running
  case counted =>
    intro turn member alive
    rcases List.mem_append.mp member with earlier | last
    · exact charged.counted turn earlier alive
    · rw [List.mem_singleton.mp last] at alive ⊢
      exact decide_eq_true (charged.active alive)
  case accounts =>
    intro task created'
    have earlier := charged.accounts task ((kept task).mp created')
    rw [resume_runTicks, heldBy_concat]
    by_cases own : l.running = task
    · subst own
      rw [if_pos (show (l.turn now).holder = l.running from rfl), charges_concat,
        stop_runTicks ordered room, earlier]
    · rw [if_neg (show (l.turn now).holder ≠ task from own), stop_other (Ne.symm own), earlier]
  case successive =>
    have handed : Successive start.toNat (past ++ [l.turn now]) now'.toNat :=
      .next charged.successive ordered ordered'
    rw [switchedIn_resume]
    exact handed

end Switch

/-! ## Steps -/

/-- The invariant of a run, whatever its system calls are. -/
structure Reckoned (start : AbsoluteTime) (past : List (Turn Pid)) (system : System) : Prop where
  settled : Settled system.kernel.ledger system.kernel
  charged : Charged start past system.kernel.ledger system.live

section Steps

variable [PicoSdk] [Malloc] {system next : System} {action : Action}

omit [PicoSdk] [Malloc] in
theorem reckoned_of_settled {l : Ledger} (settled : Settled l next.kernel)
    (charged : Charged start past l next.live) :
    Reckoned start past next ∧ next.kernel.ledger.switchedIn = l.switchedIn := by
  obtain rfl : next.kernel.ledger = l := settled.shows
  exact ⟨⟨settled, charged⟩, rfl⟩

omit [PicoSdk] [Malloc] in
theorem Reckoned.unrecorded (reckoned : Reckoned start past system) :
    Settled system.kernel.ledger system.kernel.unrecorded := by
  refine settled_of_books ?_ reckoned.settled
  rfl

/-- A system call creates a task, ends one, or does nothing to the accounts. -/
theorem reckoned_svcall {stackptr number : Word} {args : SyscallArgs} {now : AbsoluteTime}
    (reckoned : Reckoned start past system)
    (stepped : system.step (.svc stackptr number args now) = some next) :
    Reckoned start past next ∧
      next.kernel.ledger.switchedIn = system.kernel.ledger.switchedIn := by
  obtain ⟨result, run, live⟩ := System.step_ok stepped
  obtain ⟨pid, settled⟩ := (yields_svcall reckoned.charged.running stackptr number args now).ok
    reckoned.unrecorded run
  rw [System.liveAfter] at live
  rw [Ledger.afterCall] at settled
  have charged := reckoned.charged
  split_ifs at live settled with create kill die
  · rw [pid create] at live
    obtain ⟨reckoned', same⟩ := reckoned_of_settled settled (live ▸ charged_enter charged .sleeping)
    exact ⟨reckoned', same.trans (switchedIn_enter charged.running .sleeping)⟩
  · obtain ⟨reckoned', same⟩ := reckoned_of_settled settled (live ▸ charged_complete charged args.pid)
    exact ⟨reckoned', same.trans (switchedIn_complete _ _)⟩
  · obtain ⟨reckoned', same⟩ := reckoned_of_settled settled
      (live ▸ charged_complete charged system.kernel.running)
    exact ⟨reckoned', same.trans (switchedIn_complete _ _)⟩
  · exact reckoned_of_settled settled (live ▸ charged)

/-- SysTick at most asks for a switch. -/
theorem reckoned_systick {stackptr : Word} {now now' now'' : AbsoluteTime}
    (reckoned : Reckoned start past system)
    (stepped : system.step (.systick stackptr now now' now'') = some next) :
    Reckoned start past next ∧
      next.kernel.ledger.switchedIn = system.kernel.ledger.switchedIn := by
  obtain ⟨result, run, live⟩ := System.step_ok stepped
  obtain ⟨-, settled⟩ := (yields_systick stackptr now now' now'').ok reckoned.unrecorded run
  exact reckoned_of_settled settled (live ▸ reckoned.charged)

theorem reckoned_takePendsv (reckoned : Reckoned start past system)
    (stepped : system.step .takePendsv = some next) :
    Reckoned start past next ∧
      next.kernel.ledger.switchedIn = system.kernel.ledger.switchedIn := by
  obtain ⟨result, run, live⟩ := System.step_ok stepped
  have kept : Keeps (fun _ => True) books (handle .takePendsv) :=
    keeps_bind (keeps_modify fun _ => rfl) fun _ => keeps_pure _
  have settled := settled_of_books (kept.ok run) reckoned.unrecorded
  exact reckoned_of_settled settled (live ▸ reckoned.charged)

theorem settled_handlePendsv {stackptr : Word} {now now' : AbsoluteTime}
    (reckoned : Reckoned start past system)
    (stepped : system.step (.pendsv stackptr now now') = some next) :
    Settled (system.kernel.ledger.afterPendsv system.kernel.queued now now') next.kernel ∧
      next.live = system.live := by
  obtain ⟨result, run, live⟩ := System.step_ok stepped
  obtain ⟨newSp, switched, handler, run⟩ := bind_ok.mp run
  have settled := settled_pendsv reckoned.unrecorded reckoned.charged.running handler
  have finish : Keeps (fun _ => True) books
      (do modify fun kernel => { kernel with pendsvActive := false }; return newSp : KernelM Word) :=
    keeps_bind (keeps_modify fun _ => rfl) fun _ => keeps_pure _
  exact ⟨settled_of_books (finish.ok run) settled, live⟩

omit [PicoSdk] [Malloc] in
/-- What PendSV looks at. -/
theorem switched_eq (reckoned : Reckoned start past system) (stackptr : Word)
    (now now' : AbsoluteTime) :
    system.switched (.pendsv stackptr now now') =
      if system.kernel.queued = system.kernel.ledger.running then none
      else some ⟨system.kernel.running, system.kernel.ledger.switchedIn,
        system.kernel.ledger.status system.kernel.running = .running, now, now'⟩ := by
  have pid : (system.kernel.taskList system.kernel.running).pid = system.kernel.running :=
    reckoned.settled.pids _ reckoned.charged.running
  rw [System.switched, pid]
  rfl

/-- A step without a switch. -/
theorem reckoned_stay (reckoned : Reckoned start past system)
    (stay : system.switched action = none) (stepped : system.step action = some next) :
    Reckoned start past next ∧
      next.kernel.ledger.switchedIn = system.kernel.ledger.switchedIn := by
  cases action with
  | svc stackptr number args now => exact reckoned_svcall reckoned stepped
  | systick stackptr now now' now'' => exact reckoned_systick reckoned stepped
  | takePendsv => exact reckoned_takePendsv reckoned stepped
  | pendsv stackptr now now' =>
    obtain ⟨settled, live⟩ := settled_handlePendsv reckoned stepped
    rw [switched_eq reckoned] at stay
    split_ifs at stay with same
    rw [Ledger.afterPendsv, if_pos same] at settled
    exact reckoned_of_settled settled (live ▸ reckoned.charged)

/-- A switch ends a turn. -/
theorem reckoned_switch {switch : Switch} (reckoned : Reckoned start past system)
    (switched : system.switched action = some switch) (stepped : system.step action = some next)
    (ordered : system.kernel.ledger.switchedIn ≤ switch.currentTime)
    (ordered' : switch.currentTime ≤ switch.resumedTime) :
    Reckoned start (past ++ [switch.turn]) next ∧
      next.kernel.ledger.switchedIn = switch.resumedTime := by
  cases action with
  | svc stackptr number args now => cases switched
  | systick stackptr now now' now'' => cases switched
  | takePendsv => cases switched
  | pendsv stackptr now now' =>
    obtain ⟨settled, live⟩ := settled_handlePendsv reckoned stepped
    rw [switched_eq reckoned] at switched
    split_ifs at switched with same
    obtain rfl := Option.some.inj switched
    rw [Ledger.afterPendsv, if_neg same] at settled
    have charged := charged_switch reckoned.charged reckoned.settled.queued ordered ordered'
    obtain ⟨reckoned', resumed⟩ := reckoned_of_settled settled (live ▸ charged)
    exact ⟨reckoned', resumed.trans (switchedIn_resume _ _ _)⟩

end Steps

/-! ## Runs -/

section Accounting

variable [PicoSdk] [Malloc] {allowed : System → Action → Prop} {actions : List Action}
variable {system next final : System} {action : Action}

theorem switches_cons {rest : List Action} (stepped : system.step action = some next) :
    System.switches (action :: rest) system =
      (system.switched action).toList ++ System.switches rest next := by
  rw [System.switches, stepped]

/-- They are readings that the handlers of the run make. -/
theorem switchTimes_sublist (actions : List Action) (system : System) :
    (System.switchTimes actions system).Sublist (actions.flatMap Action.times) := by
  induction actions generalizing system with
  | nil => exact List.Sublist.refl _
  | cons action rest ih =>
    have first : ((system.switched action).toList.flatMap Switch.times).Sublist action.times := by
      cases action with
      | svc stackptr number args now => exact List.nil_sublist _
      | systick stackptr now now' now'' => exact List.nil_sublist _
      | takePendsv => exact List.nil_sublist _
      | pendsv stackptr now now' =>
        rw [System.switched]
        split_ifs
        · exact List.nil_sublist _
        · exact List.Sublist.refl _
    rw [System.switchTimes, System.switches, List.flatMap_append, List.flatMap_cons]
    apply first.append
    cases stepped : system.step action with
    | none => exact List.nil_sublist _
    | some next => exact ih next

/-- The run lemma. -/
theorem reckoned_run (reckoned : Reckoned start past system)
    (run : System.Runs allowed actions system final)
    (ordered : (system.kernel.ledger.switchedIn :: System.switchTimes actions system).Pairwise (· ≤ ·)) :
    Reckoned start (past ++ System.turns actions system) final ∧
      final.kernel.ledger.switchedIn ∈
        system.kernel.ledger.switchedIn :: System.switchTimes actions system := by
  induction actions generalizing past system with
  | nil =>
    obtain rfl : system = final := run
    simpa [System.turns, System.switches] using reckoned
  | cons action rest ih =>
    obtain ⟨-, next, stepped, run⟩ := run
    rw [System.switchTimes, switches_cons stepped] at ordered ⊢
    rw [System.turns, switches_cons stepped]
    cases switched : system.switched action with
    | none =>
      obtain ⟨reckoned', same⟩ := reckoned_stay reckoned switched stepped
      rw [switched] at ordered
      rw [← same] at ordered ⊢
      exact ih reckoned' run ordered
    | some switch =>
      have times : ((some switch).toList ++ System.switches rest next).flatMap Switch.times =
          switch.currentTime :: switch.resumedTime :: System.switchTimes rest next := rfl
      rw [switched, times] at ordered
      obtain ⟨first, later⟩ := List.pairwise_cons.mp ordered
      obtain ⟨second, later'⟩ := List.pairwise_cons.mp later
      obtain ⟨reckoned', resumed⟩ := reckoned_switch reckoned switched stepped
        (first _ List.mem_cons_self) (second _ List.mem_cons_self)
      rw [← resumed] at later'
      obtain ⟨reckoned'', member⟩ := ih reckoned' run later'
      rw [resumed] at member
      rw [times]
      refine ⟨?_, List.mem_cons_of_mem _ (List.mem_cons_of_mem _ member)⟩
      rwa [List.append_assoc] at reckoned''

/-! ## The start -/

/-- Before the start: no list item points outside the tasks, and nothing is charged. -/
private def Idle (kernel : Kernel) : Prop :=
  ∃ l, Settled l kernel ∧ ∀ task, (l.accounting task).runTicks = 0

omit [PicoSdk] [Malloc] in
private theorem idle_kept {α : Type} {program : KernelM α}
    (yields : ∀ l, Yields (Settled l) program (fun _ => True) (Settled l)) :
    Yields Idle program (fun _ => True) Idle := by
  apply yields_of_ok
  rintro kernel result kernel' ⟨l, settled, zero⟩ run
  exact ⟨trivial, l, ((yields l).ok settled run).2, zero⟩

omit [PicoSdk] [Malloc] in
private theorem idle_write {α : Type} {change : Kernel → Kernel} {rest : KernelM α}
    (same : ∀ kernel, books (change kernel) = books kernel)
    (follows : Yields Idle rest (fun _ => True) Idle) :
    Yields Idle (do modify change; rest) (fun _ => True) Idle :=
  triple_bind (idle_kept fun _ => yields_settled (keeps_modify same)) fun _ _ => follows

private theorem idle_createTask (task : TaskPtr) (args : SyscallArgs) (now : AbsoluteTime) :
    Yields Idle (internalSyscall task syscallCreateTask args now) (fun _ => True) Idle := by
  apply yields_of_ok
  rintro kernel result kernel' ⟨l, settled, zero⟩ run
  obtain ⟨-, settled'⟩ := (yields_createTask args.createTask args.itemsAsTasks).ok settled run
  refine ⟨trivial, _, settled', fun task => ?_⟩
  rcases eq_or_ne task l.maxPid with rfl | other
  · simp [Ledger.enter, Ledger.post]
  · simp [Ledger.enter, Ledger.post, other, zero]

private theorem idle_tasks (tasks : List CreateTaskArgs) :
    Yields Idle (createTasks tasks) (fun _ => True) Idle := by
  induction tasks with
  | nil => exact triple_pure trivial
  | cons args rest ih =>
    apply triple_bind (idle_kept fun _ => yields_settled keeps_currentTask)
    intro task _
    apply triple_bind (idle_createTask task _ 0)
    intro pid _
    exact triple_bind ih fun _ _ => triple_pure trivial

omit [PicoSdk] [Malloc] in
private theorem idle_taskingInit : Yields Idle internalTaskingInit (fun _ => True) Idle := by
  have listNew : Yields Idle (onLists listNew) (fun _ => True) Idle :=
    idle_kept fun _ => yields_onLists (yields_links keeps_listNew)
  have cores : Yields Idle (modify fun kernel => { kernel with
      cores := fun core => if core < archNumCores then ⟨0, 0⟩ else kernel.cores core } : KernelM Unit)
      (fun _ => True) Idle := by
    apply triple_modify
    rintro kernel ⟨_, ⟨rfl, bound, pids, carried, queued⟩, zero⟩
    refine ⟨_, ⟨rfl, bound, pids, carried, ?_⟩, zero⟩
    rw [Kernel.queued]
    dsimp only
    split
    · exact Nat.lt_of_le_of_lt (Nat.zero_le _) queued
    · exact queued
  apply triple_bind listNew
  intro scheduledQueue _
  apply idle_write
  · exact fun _ => rfl
  apply triple_bind listNew
  intro unscheduledQueue _
  apply idle_write
  · exact fun _ => rfl
  exact triple_bind cores fun _ _ => triple_pure trivial

private theorem idle_init (spinTask spinTaskStack : Word) :
    Yields Idle (init spinTask spinTaskStack) (fun _ => True) Idle := by
  have initSection : Yields Idle criticalSectionInit (fun _ => True) Idle := by
    apply idle_write
    · exact fun _ => rfl
    apply triple_bind (idle_kept fun _ => yields_settled keeps_get)
    intro kernel _
    apply idle_write
    · exact fun _ => rfl
    exact triple_pure trivial
  have handler (exception : Exception) (value : Nat) :
      Yields Idle (do setPriority exception value; return Result.success) (fun _ => True) Idle := by
    apply idle_write
    · exact fun _ => rfl
    exact triple_pure trivial
  apply triple_bind initSection
  intro _ _
  apply triple_ite _ (triple_pure trivial)
  apply triple_bind (handler .pendsv pendsvPriority)
  intro _ _
  apply triple_ite _ (triple_pure trivial)
  apply triple_bind (handler .svcall svcallPriority)
  intro _ _
  apply triple_ite _ (triple_pure trivial)
  apply triple_bind idle_taskingInit
  intro _ _
  apply triple_ite _ (triple_pure trivial)
  apply triple_bind (idle_kept fun _ => yields_settled keeps_currentTask)
  intro task _
  apply triple_bind (idle_createTask task _ 0)
  exact fun pid _ => triple_pure trivial

omit [PicoSdk] [Malloc] in
private theorem idle_initial : Idle Kernel.initial := by
  refine ⟨_, ⟨rfl, by decide, ?_, by simp [Carries, Kernel.initial, ListStore.initial], ?_⟩,
    fun _ => rfl⟩
  · intro task created
    obtain rfl : task = 0 := Nat.lt_one_iff.mp created
    rfl
  · exact Nat.zero_lt_one

/-- What `gkrtos_start` leaves of that. -/
private def Uncharged (kernel : Kernel) : Prop :=
  Carries (· < kernel.currentMaxPid) kernel.lists ∧
    ∀ task, (kernel.taskList task).accounting.runTicks = 0

omit [PicoSdk] [Malloc] in
private theorem uncharged_start (now : AbsoluteTime) :
    Yields Uncharged (Gkrtos.start now) (fun _ => True) Uncharged := by
  have stored (task : TaskPtr) (change : Task → Task)
      (same : ∀ record, (change record).accounting.runTicks = record.accounting.runTicks) :
      Yields Uncharged (storeTask task change) (fun _ => True) Uncharged := by
    apply triple_storeTask trivial
    rintro - kernel ⟨carried, zero⟩
    refine ⟨carried, fun other => ?_⟩
    dsimp only
    rcases eq_or_ne other task with rfl | different
    · rw [Function.update_self, same]
      exact zero other
    · rw [Function.update_of_ne different]
      exact zero other
  have cored (change : Core → Core) :
      Yields Uncharged (storeCore 0 change) (fun _ => True) Uncharged :=
    triple_modify fun _ uncharged => uncharged
  have raised : Yields Uncharged (setPriority .systick systickPriority) (fun _ => True) Uncharged :=
    triple_modify fun _ uncharged => uncharged
  have initSystick : Yields Uncharged initSystickHandler (fun _ => True) Uncharged :=
    triple_bind raised fun _ _ => triple_pure trivial
  have begun : Yields Uncharged (modify fun kernel => { kernel with taskingStarted := true } : KernelM Unit)
      (fun _ => True) Uncharged :=
    triple_modify fun _ uncharged => uncharged
  apply triple_bind initSystick
  intro _ _
  apply triple_ite _ (triple_pure trivial)
  apply triple_bind begun
  intro _ _
  apply triple_bind (cored _)
  intro _ _
  apply triple_bind (cored _)
  intro _ _
  refine triple_bind (stored 1 _ ?_) fun _ _ => stored 1 _ ?_
  · exact fun _ => rfl
  · exact fun _ => rfl

theorem reckoned_started {started : System} (isStarted : started.StartedAt start) :
    Reckoned start [] started ∧ started.kernel.ledger.switchedIn = start := by
  obtain ⟨kernel, live⟩ := started
  obtain ⟨spinTask, spinTaskStack, tasks, pids, few, launch, rfl⟩ := isStarted
  obtain ⟨pids', kernel', launch', outside, live⟩ :=
    launch_returns spinTask spinTaskStack tasks start few
  dsimp only at launch
  rw [launch, EStateM.Result.ok.injEq] at launch'
  obtain ⟨rfl, rfl⟩ := launch'
  have initial := initial_atStart spinTask spinTaskStack tasks start few
  have uncharged : Uncharged kernel := by
    obtain ⟨_, booted, boot, launch⟩ := bind_ok.mp launch
    obtain ⟨_, filled, fill, launch⟩ := bind_ok.mp launch
    obtain ⟨_, begun, start, launch⟩ := bind_ok.mp launch
    cases launch
    have idle := ((idle_init spinTask spinTaskStack).ok idle_initial boot).2
    obtain ⟨_, ⟨rfl, -, -, carried, -⟩, zero⟩ := ((idle_tasks tasks).ok idle fill).2
    have bare : Uncharged filled := ⟨carried, zero⟩
    exact ((uncharged_start _).ok bare start).2
  have clock : kernel.ledger.switchedIn = start := by
    have shown : kernel.ledger.switchedIn =
        ((view kernel).table (view kernel).running).accounting.ctxSwitchTime := rfl
    rw [shown, outside.shows]
    simp [atStart, launched, Scheduler.change_table]
  rw [← outside.shows, ← live] at initial
  have numbered := initial.invariant.numbered
  refine ⟨⟨⟨rfl, numbered.bound, numbered.pids, uncharged.1, numbered.queued⟩, ?_⟩, clock⟩
  constructor
  case running => exact numbered.running
  case created => exact numbered.created
  case active =>
    have running : kernel.ledger.running = 1 := initial.running
    intro _
    rw [running]
    exact initial.spins
  case holders => exact fun turn member => absurd member List.not_mem_nil
  case counted => exact fun turn member => absurd member List.not_mem_nil
  case accounts => exact fun task _ => congrArg UInt64.toNat (uncharged.2 task)
  case successive =>
    rw [clock]
    exact .none

/-- Every task that was not killed is charged for all its turns, up to what is left of a
millisecond in each; and all tasks together are charged for no more than the time since
the start. -/
theorem run_time_accounting {started : System} {now : AbsoluteTime}
    (isStarted : started.StartedAt start) (run : System.Runs allowed actions started final)
    (ordered : (start :: (System.switchTimes actions started ++ [now])).Pairwise (· ≤ ·)) :
    (∀ task ∈ final.live,
      1000 * (final.kernel.taskList task).accounting.runTicks.toNat ≤
          total (heldBy task (System.turns actions started)) ∧
        total (heldBy task (System.turns actions started)) ≤
          1000 * (final.kernel.taskList task).accounting.runTicks.toNat +
            999 * (heldBy task (System.turns actions started)).length) ∧
      ∑ task ∈ Finset.Ico 1 final.kernel.currentMaxPid,
        1000 * (final.kernel.taskList task).accounting.runTicks.toNat ≤ now.toNat - start.toNat := by
  obtain ⟨reckoned, clock⟩ := reckoned_started isStarted
  obtain ⟨first, later⟩ := List.pairwise_cons.mp ordered
  obtain ⟨later, -, last⟩ := List.pairwise_append.mp later
  have ordered' : (started.kernel.ledger.switchedIn ::
      System.switchTimes actions started).Pairwise (· ≤ ·) := by
    rw [clock]
    exact List.pairwise_cons.mpr ⟨fun time member => first time (List.mem_append_left _ member), later⟩
  obtain ⟨⟨settled, charged⟩, member⟩ := reckoned_run reckoned run ordered'
  rw [List.nil_append] at charged
  have passed : final.kernel.ledger.switchedIn ≤ now := by
    rw [clock] at member
    rcases List.mem_cons.mp member with same | member
    · rw [same]
      exact first now (List.mem_append_right _ List.mem_cons_self)
    · exact last _ member now List.mem_cons_self
  have accounts (task : TaskPtr) (created : task < final.kernel.currentMaxPid) :
      (final.kernel.taskList task).accounting.runTicks.toNat =
        charges 1000 (heldBy task (System.turns actions started)) :=
    charged.accounts task created
  constructor
  · intro task alive
    rw [accounts task (charged.created task alive)]
    refine ⟨charges_le_total 1000 _, total_le_charges (by decide) ?_⟩
    intro turn member
    obtain ⟨earlier, rfl⟩ := mem_heldBy.mp member
    exact charged.counted turn earlier alive
  · have sum := charged.successive.sum_charges_le 1000 (Finset.Ico 1 final.kernel.currentMaxPid)
    have same : ∑ task ∈ Finset.Ico 1 final.kernel.currentMaxPid,
          1000 * (final.kernel.taskList task).accounting.runTicks.toNat =
        ∑ task ∈ Finset.Ico 1 final.kernel.currentMaxPid,
          1000 * charges 1000 (heldBy task (System.turns actions started)) :=
      Finset.sum_congr rfl fun task created =>
        congrArg (1000 * ·) (accounts task (Finset.mem_Ico.mp created).2)
    have passed' : final.kernel.ledger.switchedIn.toNat ≤ now.toNat := passed
    rw [same]
    omega

end Accounting

section Example

attribute [local instance] PicoSdk.reference Malloc.reference

/-- The spin task and another one take two turns each; the other one dies in its second. -/
private def sharedRun : List Action := [
  .svc 0 syscallYield .zero 1000, .takePendsv, .pendsv 0 2150 2160,
  .svc 0 syscallYield .zero 2500, .takePendsv, .pendsv 0 6000 6001,
  .svc 0 syscallYield .zero 6500, .takePendsv, .pendsv 0 6900 6905,
  .svc 0 syscallDie .zero 7000, .takePendsv, .pendsv 0 9000 9001]

private def sharedOutcome : Option (InterruptMask × Finset Pid × Scheduler) :=
  Scheduler.run (fun _ live s action => s.Legal live action) sharedRun
    (false, atStart 0 0 [SyscallArgs.zero.createTask] 100)

private theorem sharedOutcome_isSome : sharedOutcome.isSome := by decide +kernel

private theorem shared_mirrors (mask : InterruptMask) (system : System) (s : Scheduler)
    (action : Action) (good : Good mask system s) (legal : s.Legal system.live action) :
    True ∧ system.Legal action :=
  ⟨trivial, (legal_iff good).mpr legal⟩

theorem run_time_accounting_example :
    ∃ started final : System, started.StartedAt 100 ∧
      System.Runs (fun _ _ => True) sharedRun started final ∧ final.live = {1} ∧
      (final.kernel.taskList 1).accounting.runTicks = 2 ∧
      (final.kernel.taskList 2).accounting.runTicks = 3 ∧
      (∀ task ∈ final.live,
        1000 * (final.kernel.taskList task).accounting.runTicks.toNat ≤
            total (heldBy task (System.turns sharedRun started)) ∧
          total (heldBy task (System.turns sharedRun started)) ≤
            1000 * (final.kernel.taskList task).accounting.runTicks.toNat +
              999 * (heldBy task (System.turns sharedRun started)).length) ∧
      ∑ task ∈ Finset.Ico 1 final.kernel.currentMaxPid,
        1000 * (final.kernel.taskList task).accounting.runTicks.toNat ≤ 8901 := by
  obtain ⟨started, isStarted, good, live⟩ :=
    exists_startedAt 0 0 [SyscallArgs.zero.createTask] 100 (by decide)
  have ran : Scheduler.run (fun _ live s action => s.Legal live action) sharedRun
      (false, started.live, (atStart 0 0 [SyscallArgs.zero.createTask] 100).2) =
      some (sharedOutcome.get sharedOutcome_isSome) := by
    rw [live]
    exact (Option.some_get sharedOutcome_isSome).symm
  obtain ⟨final, run, good', live'⟩ := run_simulates shared_mirrors good ran
  have table : final.kernel.taskList = (sharedOutcome.get sharedOutcome_isSome).2.2.table :=
    congrArg Scheduler.table good'.outside.shows
  have ordered : (100 :: (System.switchTimes sharedRun started ++ [9001])).Pairwise (· ≤ ·) := by
    have all : (100 :: (sharedRun.flatMap Action.times ++ [9001])).Pairwise (· ≤ ·) := by
      decide
    exact all.sublist (((switchTimes_sublist sharedRun started).append_right _).cons_cons _)
  refine ⟨started, final, isStarted, run, live'.trans (by decide +kernel), ?_, ?_,
    run_time_accounting isStarted run ordered⟩
  · rw [table]
    decide +kernel
  · rw [table]
    decide +kernel

end Example

end Gkrtos
