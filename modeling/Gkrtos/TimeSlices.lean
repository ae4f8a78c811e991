import Gkrtos.SwitchRequests
import Gkrtos.TaskRecords

/-! No user task keeps the core for itself. The SysTick handler turns the ring when the
running task has had its time. That may bring up the running task itself, when it has been
woken and stands behind the head, but then it is the head, and the next SysTick brings up
another one. Creating tasks does not help, since they line up behind the head. -/
namespace Gkrtos
open KernelRefinement

namespace Scheduler

variable {live : Finset Pid} {s s' : Scheduler} {task victim : Pid} {now : AbsoluteTime}

/-! ## Who is in the slot is awake -/

/-- The task in the slot does not sleep. -/
def SlotAwake (s : Scheduler) : Prop := s.deadline s.queued = nilTime

section Slot

variable [PicoSdk]

theorem choice_awake (invariant : Invariant live s) :
    (s.select now).deadline (s.choice now) = nilTime :=
  ((invariant_select now invariant).placed.mem_ring.mp (choice_mem_ring now invariant)).2

theorem Chooses.slotAwake (chooses : s.Chooses now s') (invariant : Invariant live s) :
    SlotAwake s' := by
  rw [SlotAwake, chooses.queued, invariant.pid (choice_live now invariant), chooses.deadline]
  exact choice_awake invariant

theorem slotAwake_step {action : Action} (awake : SlotAwake s) (invariant : Invariant live s)
    (legal : s.Legal live action) : SlotAwake (s.step action) := by
  have good := invariant.of_record [] s.requested s.taken
  have cleared : SlotAwake { s with trace := [] } := awake
  have effect := step_effect invariant legal
  generalize s.liveAfter live action = live', s.step action = s' at effect ⊢
  cases effect with
  | idle => exact cleared
  | yield _ now => exact (yield_chooses _ now).slotAwake good
  | createTask stackptr args now room =>
    obtain ⟨-, -, queued, -⟩ :=
      createTask_fields { s with trace := [] } args.createTask args.itemsAsTasks
    rw [SlotAwake, queued, createTask_deadline]
    exact awake
  | sleepUntil stackptr args now alive notSpin =>
    exact (yield_chooses _ now).slotAwake
      (invariant_postpone args.milliseconds args.itemsAsTasks good alive notSpin)
  | kill _ victim now alive notSpin => exact (kill_chooses _ victim now).slotAwake good
  | takePendsv => exact awake
  | pendsv stackptr now now' =>
    show SlotAwake { ({ s with trace := [] } : Scheduler).pendsv stackptr now now' with taken := false }
    unfold pendsv
    split_ifs
    · exact awake
    · have deadlines := (contextSwitch_pid_deadline { s with trace := [] } stackptr now now').2
      exact (congrFun deadlines s.queued).trans awake

end Slot

/-! ## When the clock of a turn is written -/

/-- The tasks created so far keep their accounting data. -/
def KeepsAccounting (s s' : Scheduler) : Prop :=
  ∀ task < s.maxPid, (s'.table task).accounting = (s.table task).accounting

theorem keepsAccounting_change {change : Task → Task}
    (same : ∀ record, (change record).accounting = record.accounting) :
    KeepsAccounting s (s.change task change) := by
  intro other _
  rw [change_table]
  split
  case isTrue equal =>
    subst equal
    exact same _
  case isFalse => rfl

theorem keepsAccounting_select [PicoSdk] (s : Scheduler) (now : AbsoluteTime) :
    KeepsAccounting s (s.select now) := by
  cases due : s.due now with
  | none =>
    rw [select_idle due]
    exact fun _ _ => rfl
  | some first =>
    have woken : KeepsAccounting s (s.setDeadline first nilTime) := keepsAccounting_change fun _ => rfl
    rw [select_due due]
    exact woken

theorem keepsAccounting_kill [PicoSdk] (s : Scheduler) (victim : Pid) (now : AbsoluteTime) :
    KeepsAccounting s (s.kill victim now) := by
  have completed : KeepsAccounting s (s.complete victim) := keepsAccounting_change fun _ => rfl
  intro other created
  have table := (((s.complete victim).select now).dequeue_fields victim).1
  have selected := keepsAccounting_select (s.complete victim) now other created
  calc
    ((s.kill victim now).table other).accounting =
        (((s.complete victim).select now).table other).accounting :=
      congrArg Task.accounting (congrFun table other)
    _ = ((s.complete victim).table other).accounting := selected
    _ = (s.table other).accounting := completed other created

/-! ## Keeping the core -/

/-- The task has the core, no switch is under way, and it is dead or awake. -/
structure Holds (task : Pid) (since : AbsoluteTime) (live : Finset Pid) (s : Scheduler) : Prop where
  running : s.running = task
  created : task < s.maxPid
  quiet : s.requested = false
  untaken : s.taken = false
  awake : task ∈ live → s.deadline task = nilTime
  since : (s.table task).accounting.ctxSwitchTime = since

/-- The next turn of the ring goes to another task. -/
def Front (task : Pid) (live : Finset Pid) (s : Scheduler) : Prop :=
  task ∈ live → s.ring.head? = some task

section Turns

variable [PicoSdk] {since : AbsoluteTime}

/-- A task that has the core is chosen only by a turn of the ring. -/
theorem Holds.turned (holds : Holds task since live s) (invariant : Invariant live s)
    (chosen : s.choice now = task) :
    task ∈ live ∧ s.due now = none ∧ (s.ring.rotate 1).head? = some task := by
  have alive : task ∈ live := chosen ▸ choice_live now invariant
  have idle : s.due now = none := by
    cases due : s.due now with
    | none => rfl
    | some first =>
      obtain rfl : first = task := (choice_due due).symm.trans chosen
      have asleep := List.mem_of_head? (due_eq_some.mp due).1
      exact absurd (holds.awake alive) (invariant.placed.mem_sleepers.mp asleep).2
  refine ⟨alive, idle, ?_⟩
  have turned : (s.ring.rotate 1).headD 0 = task := (choice_idle idle).symm.trans chosen
  cases shape : s.ring.rotate 1 with
  | nil =>
    have spins := List.mem_rotate (n := 1) |>.mpr invariant.spin_mem_ring
    rw [shape] at spins
    exact absurd spins List.not_mem_nil
  | cons first rest =>
    rw [shape] at turned
    exact congrArg some turned

/-- The task at the head is not the next one, since the spin task is in the ring too. -/
theorem Holds.unchosen (holds : Holds task since live s) (invariant : Invariant live s)
    (front : Front task live s) (user : task ≠ 1) : s.choice now ≠ task := by
  intro chosen
  obtain ⟨alive, -, second⟩ := holds.turned invariant chosen
  obtain ⟨rest, shape⟩ : ∃ rest, s.ring = task :: rest := List.head?_eq_some_iff.mp (front alive)
  have spins : 1 ∈ task :: rest := shape ▸ invariant.spin_mem_ring
  have distinct : (task :: rest).Nodup := shape ▸ invariant.placed.ring_nodup
  cases rest with
  | nil => exact user (List.mem_singleton.mp spins).symm
  | cons next others =>
    rw [shape, List.rotate_cons_succ, List.rotate_zero] at second
    obtain rfl : next = task := Option.some.inj second
    exact (List.nodup_cons.mp distinct).1 List.mem_cons_self

/-- A decision that keeps the task on the core leaves it at the head. -/
theorem Holds.chooses {live' : Finset Pid} (holds : Holds task since live s)
    (invariant : Invariant live s) (chooses : s.Chooses now s') (quiet : s'.requested = false)
    (fewer : live' ⊆ live) (keeps : KeepsAccounting s s') :
    Holds task since live' s' ∧ s.choice now = task := by
  have chosen : s.running = s.pid (s.choice now) := by
    have settled := chooses.requested.symm.trans quiet
    rw [holds.quiet, Bool.false_or] at settled
    exact bne_eq_false_iff_eq.mp settled
  rw [invariant.pid (choice_live now invariant), holds.running] at chosen
  refine ⟨⟨chooses.running.trans holds.running, chooses.maxPid ▸ holds.created, quiet,
    chooses.taken.trans holds.untaken, fun alive => ?_, ?_⟩, chosen.symm⟩
  · rw [chooses.deadline, select_deadline]
    split_ifs
    · rfl
    · exact holds.awake (fewer alive)
  · rw [keeps task holds.created]
    exact holds.since

theorem Holds.front_yield (holds : Holds task since live s) (invariant : Invariant live s)
    (chosen : s.choice now = task) : Front task live (s.yield now) := by
  intro _
  obtain ⟨-, idle, second⟩ := holds.turned invariant chosen
  show (s.select now).ring.head? = some task
  rw [select_idle idle]
  exact second

theorem Holds.front_kill (holds : Holds task since live s) (invariant : Invariant live s)
    (chosen : s.choice now = task) : Front task (live.erase victim) (s.kill victim now) := by
  intro alive
  have different : task ≠ victim := (Finset.mem_erase.mp alive).1
  obtain ⟨-, idle, second⟩ := holds.turned invariant chosen
  have idle' : (s.complete victim).due now = none := by rw [(complete_choice s victim now).1, idle]
  have ring : ((s.complete victim).select now).ring = s.ring.rotate 1 := by
    rw [select_idle idle']
    rfl
  show (((s.complete victim).select now).dequeue victim).ring.head? = some task
  unfold dequeue
  split_ifs
  · obtain ⟨rest, shape⟩ := List.head?_eq_some_iff.mp second
    show (((s.complete victim).select now).ring.erase victim).head? = some task
    rw [ring, shape, List.erase_cons_tail (by simpa using different)]
    rfl
  · rw [ring]
    exact second

end Turns

end Scheduler

/-- The handler run chooses a task to run next, when the running task has had the core
since then. The SysTick handler may do so earlier. -/
def Action.Decides (since : AbsoluteTime) : Action → Prop
  | .svc _ number _ _ => number = syscallYield ∨ number = syscallKill ∨ number = syscallDie
  | .systick _ now _ _ => since.toNat + taskingTaskElapsedTimeUs.toNat < now.toNat
  | _ => False

instance (since : AbsoluteTime) : DecidablePred (Action.Decides since)
  | .svc _ _ _ _ => inferInstanceAs (Decidable (_ ∨ _))
  | .systick _ _ _ _ => inferInstanceAs (Decidable (_ < _))
  | .takePendsv | .pendsv _ _ _ => inferInstanceAs (Decidable False)

/-- The running task does not go to sleep, and is not switched out. -/
def Action.Stays : Action → Prop
  | .svc _ number _ _ => number ≠ syscallSleepUntil
  | .takePendsv => False
  | _ => True

instance : DecidablePred Action.Stays
  | .svc _ _ _ _ => inferInstanceAs (Decidable (_ ≠ _))
  | .takePendsv => inferInstanceAs (Decidable False)
  | .systick _ _ _ _ | .pendsv _ _ _ => inferInstanceAs (Decidable True)

namespace Scheduler

section Steps

variable [PicoSdk] {live : Finset Pid} {s : Scheduler} {task : Pid} {since : AbsoluteTime}

theorem rescheduleRequired_of_elapsed {now now' : AbsoluteTime} (holds : Holds task since live s)
    (elapsed : since.toNat + taskingTaskElapsedTimeUs.toNat < now.toNat) :
    s.RescheduleRequired now now' := by
  left
  rw [holds.running, holds.since, PicoSdk.absoluteTimeDiffUs_eq]
  show taskingTaskElapsedTimeUs < now - since
  rw [UInt64.lt_iff_toNat_lt, UInt64.toNat_sub_of_le _ _ (UInt64.le_iff_toNat_le.mpr (by omega))]
  omega

/-- What a step of a task that keeps the core does: it decides nothing, or it decides for
the task, which was not at the head but is now. -/
def Stayed (task : Pid) (since : AbsoluteTime) (live : Finset Pid) (s : Scheduler) (action : Action)
    (live' : Finset Pid) (s' : Scheduler) : Prop :=
  Holds task since live' s' ∧
    (¬ action.Decides since ∧ (Front task live s → Front task live' s') ∨
      ¬ Front task live s ∧ Front task live' s')

variable {action : Action}

theorem stayed_yield {now : AbsoluteTime} (holds : Holds task since live s) (invariant : Invariant live s)
    (user : task ≠ 1) (quiet : (s.yield now).requested = false) :
    Stayed task since live s action live (s.yield now) := by
  obtain ⟨held, chosen⟩ := holds.chooses invariant (yield_chooses s now) quiet (Finset.Subset.refl live)
    (keepsAccounting_select s now)
  exact ⟨held, .inr ⟨fun front => holds.unchosen invariant front user chosen,
    holds.front_yield invariant chosen⟩⟩

theorem stayed_kill {victim : Pid} {now : AbsoluteTime} (holds : Holds task since live s)
    (invariant : Invariant live s) (user : task ≠ 1) (quiet : (s.kill victim now).requested = false) :
    Stayed task since live s action (live.erase victim) (s.kill victim now) := by
  obtain ⟨held, chosen⟩ := holds.chooses invariant (kill_chooses s victim now) quiet
    (Finset.erase_subset victim live) (keepsAccounting_kill s victim now)
  exact ⟨held, .inr ⟨fun front => holds.unchosen invariant front user chosen,
    holds.front_kill invariant chosen⟩⟩

/-- A new task is not the one that has the core, and lines up behind the head. -/
theorem stayed_createTask {args : CreateTaskArgs} {read : ItemsAsTasks} (holds : Holds task since live s)
    (invariant : Invariant live s) (undecided : ¬ action.Decides since) :
    Stayed task since live s action (insert s.maxPid live) (s.createTask args read) := by
  obtain ⟨maxPid, running, -, requested, taken, -⟩ := createTask_fields s args read
  have older : task ≠ s.maxPid := Nat.ne_of_lt holds.created
  have old : task ∈ insert s.maxPid live → task ∈ live :=
    fun alive => (Finset.mem_insert.mp alive).resolve_left older
  refine ⟨⟨running.trans holds.running, ?_, requested.trans holds.quiet, taken.trans holds.untaken,
    fun alive => ?_, ?_⟩, .inl ⟨undecided, fun front alive => ?_⟩⟩
  · rw [maxPid]
    exact Nat.lt_succ_of_lt holds.created
  · rw [createTask_deadline]
    exact holds.awake (old alive)
  · rw [createTask_table, if_neg older]
    exact holds.since
  · obtain ⟨rest, shape⟩ := List.head?_eq_some_iff.mp (front (old alive))
    rw [createTask, enqueue_awake (newborn_awake invariant.numbered)]
    show (ListRefinement.insertSecond s.maxPid s.ring).head? = some task
    rw [shape]
    rfl

/-- The step lemma. -/
theorem stayed_step (holds : Holds task since live s) (invariant : Invariant live s)
    (legal : s.Legal live action) (stays : action.Stays) (user : task ≠ 1)
    (mayTake : ∀ stackptr now now', action = .pendsv stackptr now now' → s.taken = true)
    (quiet : (s.step action).requested = false) :
    Stayed task since live s action (s.liveAfter live action) (s.step action) := by
  have good := invariant.of_record [] s.requested s.taken
  have cleared : Holds task since live { s with trace := [] } :=
    ⟨holds.running, holds.created, holds.quiet, holds.untaken, holds.awake, holds.since⟩
  cases action with
  | svc stackptr number args now =>
    rcases legal with rfl | ⟨rfl, room⟩ | ⟨rfl, -⟩ | ⟨rfl, alive, -⟩ | ⟨rfl, -⟩ | unknown
    · exact stayed_yield cleared good user quiet
    · refine stayed_createTask cleared good ?_
      rintro (same | same | same)
      · exact absurd same (by decide)
      · exact absurd same (by decide)
      · exact absurd same (by decide)
    · exact absurd rfl stays
    · have dies : ({ s with trace := [] } : Scheduler).pid s.running = s.running := invariant.pid alive
      show Stayed task since live s _ (live.erase s.running)
        (({ s with trace := [] } : Scheduler).kill (({ s with trace := [] } : Scheduler).pid s.running) now)
      change (({ s with trace := [] } : Scheduler).kill
        (({ s with trace := [] } : Scheduler).pid s.running) now).requested = false at quiet
      rw [dies] at quiet ⊢
      exact stayed_kill cleared good user quiet
    · exact stayed_kill cleared good user quiet
    · have beyond {known : Word} : known ≤ syscallTaskNextTick → number ≠ known := ne_of_unknown unknown
      have undecided : ¬ (Action.svc stackptr number args now).Decides since := by
        rintro (same | same | same)
        · exact beyond (by decide) same
        · exact beyond (by decide) same
        · exact beyond (by decide) same
      rw [liveAfter_unknown unknown]
      show Stayed task since live s _ live (Scheduler.syscall _ number args now)
      rw [syscall_unknown unknown]
      exact ⟨cleared, .inl ⟨undecided, id⟩⟩
  | systick stackptr now now' now'' =>
    change (Scheduler.systick _ now now' now'').requested = false at quiet
    show Stayed task since live s _ live (Scheduler.systick _ now now' now'')
    unfold systick at quiet ⊢
    split_ifs at quiet ⊢ with required
    · exact stayed_yield cleared good user quiet
    · exact ⟨cleared, .inl ⟨fun elapsed => required (rescheduleRequired_of_elapsed cleared elapsed), id⟩⟩
  | takePendsv => exact absurd stays id
  | pendsv stackptr now now' =>
    exact absurd (mayTake stackptr now now' rfl) (by simp [holds.untaken])

/-- A request stays until PendSV is taken. -/
theorem requested_step (invariant : Invariant live s) (legal : s.Legal live action)
    (stays : action.Stays) (quiet : (s.step action).requested = false) : s.requested = false := by
  have good := invariant.of_record [] s.requested s.taken
  have effect := step_effect invariant legal
  generalize s.liveAfter live action = live', s.step action = s' at effect quiet ⊢
  cases effect with
  | idle => exact quiet
  | yield _ now =>
    rw [(yield_chooses _ now).requested, Bool.or_eq_false_iff] at quiet
    exact quiet.1
  | createTask stackptr args now room =>
    rw [(createTask_fields _ args.createTask args.itemsAsTasks).2.2.2.1] at quiet
    exact quiet
  | sleepUntil stackptr args now alive notSpin => exact absurd rfl stays
  | kill _ victim now alive notSpin =>
    rw [(kill_chooses _ victim now).requested, Bool.or_eq_false_iff] at quiet
    exact quiet.1
  | takePendsv => exact absurd stays id
  | pendsv stackptr now now' =>
    change (Scheduler.pendsv _ stackptr now now').requested = false at quiet
    unfold pendsv at quiet
    split_ifs at quiet
    · exact quiet
    · exact quiet

end Steps

end Scheduler

section Runs

variable [PicoSdk] [Malloc] {mask : InterruptMask} {system final : System} {s : Scheduler}
variable {actions : List Action} {task : Pid} {since : AbsoluteTime}

def System.KeepsCore (system : System) (action : Action) : Prop :=
  system.Permitted action ∧ action.Stays

/-- So none was made before the end of the run. -/
theorem requested_run (good : Good mask system s) (run : System.Runs System.KeepsCore actions system final)
    (keeps : final.kernel.pendsvPending = false) : s.requested = false := by
  induction actions generalizing mask system s with
  | nil =>
    obtain rfl : system = final := run
    rwa [good.requested] at keeps
  | cons action rest ih =>
    obtain ⟨⟨permitted, stays⟩, next, stepped, run⟩ := run
    have good' := (good_step good permitted.1 stepped).1
    exact s.requested_step good.invariant ((legal_iff good).mp permitted.1) stays (ih good' run)

/-- The run lemma. With the task at the head there is no decision to come, and at most
one otherwise. -/
theorem decisions_le (good : Good mask system s) (holds : s.Holds task since system.live)
    (user : task ≠ 1) (run : System.Runs System.KeepsCore actions system final)
    (keeps : final.kernel.pendsvPending = false) :
    actions.countP (fun action => action.Decides since) ≤ 1 ∧
      (s.Front task system.live → actions.countP (fun action => action.Decides since) = 0) := by
  induction actions generalizing mask system s with
  | nil => exact ⟨Nat.zero_le 1, fun _ => rfl⟩
  | cons action rest ih =>
    obtain ⟨⟨permitted, stays⟩, next, stepped, run⟩ := run
    obtain ⟨good', live⟩ := good_step good permitted.1 stepped
    have legal := (legal_iff good).mp permitted.1
    have mayTake : ∀ stackptr now now', action = .pendsv stackptr now now' → s.taken = true := by
      rintro stackptr now now' rfl
      exact ((permitted_iff good).mp permitted).2
    obtain ⟨held, outcome⟩ := s.stayed_step holds good.invariant legal stays user mayTake
      (requested_run good' run keeps)
    rw [← live] at held outcome
    obtain ⟨atMost, none⟩ := ih good' held run
    obtain ⟨undecided, front⟩ | ⟨notFront, front⟩ := outcome
    · rw [List.countP_cons_of_neg (by simpa using undecided)]
      exact ⟨atMost, fun first => none (front first)⟩
    · have last := none front
      refine ⟨?_, fun first => absurd first notFront⟩
      by_cases decides : action.Decides since
      · rw [List.countP_cons_of_pos (by simpa using decides), last]
      · rw [List.countP_cons_of_neg (by simpa using decides), last]
        exact Nat.zero_le 1

/-- With no switch under way the task in the slot is the running one, and it is awake. -/
theorem reachable_runs_awake (reachable : system.Reachable System.Legal)
    (quiet : system.kernel.pendsvPending = false) (untaken : system.kernel.pendsvActive = false) :
    ∃ mask s, Good mask system s ∧ s.requested = false ∧ s.taken = false ∧
      s.deadline s.running = nilTime := by
  obtain ⟨mask, s, good, awake, consistent⟩ := reachable_induction
    (fun _ live s => s.SlotAwake ∧ s.Consistent live) (fun _ _ legal => legal)
    (fun live s initial => by
      refine ⟨?_, fun _ _ => initial.queued.trans initial.running.symm, ?_, .inl ?_⟩
      · rw [Scheduler.SlotAwake, initial.queued]
        exact initial.invariant.awake
      · exact fun task positive bound active =>
          (initial.others task positive bound active).trans initial.running.symm
      · rw [initial.running]
        exact initial.spins)
    (fun mask system s action good legal holds =>
      ⟨s.slotAwake_step holds.1 good.invariant ((legal_iff good).mp legal),
        s.consistent_step holds.2 good.invariant ((legal_iff good).mp legal)⟩)
    reachable
  have requested : s.requested = false := good.requested.symm.trans quiet
  have taken : s.taken = false := (congrArg Scheduler.taken good.outside.shows).symm.trans untaken
  exact ⟨mask, s, good, requested, taken, consistent.served requested taken ▸ awake⟩

theorem reachable_holds (reachable : system.Reachable System.Legal)
    (quiet : system.kernel.pendsvPending = false) (untaken : system.kernel.pendsvActive = false) :
    ∃ mask s, Good mask system s ∧ s.Holds system.kernel.running
      (system.kernel.taskList system.kernel.running).accounting.ctxSwitchTime system.live := by
  obtain ⟨mask, s, good, requested, taken, awake⟩ := reachable_runs_awake reachable quiet untaken
  have table : system.kernel.taskList = s.table := congrArg Scheduler.table good.outside.shows
  rw [table, good.running]
  exact ⟨mask, s, good, rfl, good.invariant.numbered.running, requested, taken, fun _ => awake, rfl⟩

end Runs

section Example

attribute [local instance] PicoSdk.reference Malloc.reference

/-- The only user task sleeps until 5000 and is woken by a SysTick. -/
private def wokenTask : List Action := [
  .svc 0 syscallYield .zero 100, .takePendsv, .pendsv 0 101 102,
  .svc 0 syscallSleepUntil { SyscallArgs.zero with milliseconds := 5000 } 200, .takePendsv,
  .pendsv 0 201 202, .systick 0 4500 4500 4500, .takePendsv, .pendsv 0 4501 4502]

/-- It yields, which brings it to the head, and creates a task. -/
private def keptRun : List Action := [.svc 0 syscallYield .zero 4600, .svc 0 syscallCreateTask .zero 4700]

private def wokenState : Option (InterruptMask × Finset Pid × Scheduler) :=
  Scheduler.run (fun _ live s action => s.Legal live action) wokenTask
    (false, atStart 0 0 [SyscallArgs.zero.createTask] 0)

private def keepsCore (mask : InterruptMask) (live : Finset Pid) (s : Scheduler) (action : Action) : Prop :=
  Scheduler.Permitted mask live s action ∧ action.Stays

private instance (mask : InterruptMask) (live : Finset Pid) (s : Scheduler) (action : Action) :
    Decidable (keepsCore mask live s action) :=
  inferInstanceAs (Decidable (_ ∧ _))

private theorem wokenState_eq : wokenState.map (fun (_, _, s) => (s.running, s.requested, s.taken)) =
    some (2, false, false) := by
  decide +kernel

private theorem keptState_eq : (wokenState.bind (Scheduler.run keepsCore keptRun)).map
    (fun (_, _, s) => s.requested) = some false := by
  decide +kernel

end Example

end Gkrtos
