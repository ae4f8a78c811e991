import Gkrtos.Decisions

/-! Requests for a context switch and the status of the tasks fit together. A
request consists of the queued pid and the pending bit of PendSV, and different
handlers write the two; its effect is the running pid and the status of the two
tasks. Whatever the order of the handlers, with no PendSV to come the last
decision has been carried out, and no task but the running one is marked as
running. A task that is killed is marked as complete, and is switched to and marked
as running all the same if KILL finds that it comes next. -/
namespace Gkrtos

namespace Scheduler

variable {live : Finset Pid} {s s' : Scheduler} {task : TaskPtr}

/-- The last decision has been carried out unless PendSV is still to do it, and
the status RUNNING is the running task's, which has it until it is killed. -/
structure Consistent (live : Finset Pid) (s : Scheduler) : Prop where
  served : s.requested = false → s.taken = false → s.queued = s.running
  only : ∀ task, 0 < task → task < s.maxPid → s.status task = .running → task = s.running
  runs : s.status s.running = .running ∨ s.status s.running = .complete ∧ s.running ∉ live

/-- A running task that was killed is complete, and `doomed` says whether PendSV is to
switch to one that was killed. -/
structure Followed (live : Finset Pid) (doomed : Prop) (s : Scheduler) : Prop where
  ended : s.running ∉ live → s.status s.running = .complete
  slot : doomed ↔ s.queued ∉ live ∧ s.queued ≠ s.running

theorem Consistent.of_fields {live' : Finset Pid} (consistent : Consistent live s)
    (maxPid : s'.maxPid = s.maxPid) (running : s'.running = s.running)
    (status : s'.status = s.status) (fewer : live' ⊆ live)
    (served : s'.requested = false → s'.taken = false → s'.queued = s'.running) :
    Consistent live' s' := by
  refine ⟨served, ?_, ?_⟩
  · rw [maxPid, running, status]
    exact consistent.only
  · rw [running, status]
    exact consistent.runs.imp id (And.imp id fun dead member => dead (fewer member))

theorem consistent_complete (consistent : Consistent live s) :
    Consistent (live.erase task) (s.complete task) := by
  have status : ∀ other, (s.complete task).status other =
      if other = task then .complete else s.status other := fun other => change_status s task other _
  refine ⟨consistent.served, ?_, ?_⟩
  · intro other positive bound active
    rw [status] at active
    split_ifs at active
    exact consistent.only other positive bound active
  · change (s.complete task).status s.running = _ ∨ (s.complete task).status s.running = _ ∧ _
    rw [status]
    split_ifs with same
    · exact .inr ⟨rfl, same ▸ Finset.notMem_erase s.running live⟩
    · exact consistent.runs.imp id
        (And.imp id fun dead member => dead (Finset.mem_of_mem_erase member))

/-- The switch marks the old task as asleep, unless it was killed, and the new
one as running. -/
theorem consistent_pendsv {stackptr : Word} {now now' : AbsoluteTime}
    (consistent : Consistent live s) (numbered : Numbered live s) :
    Consistent live { s.pendsv stackptr now now' with taken := false } := by
  have runningPid : s.pid s.running = s.running := numbered.pids _ numbered.running
  have queuedPid : s.pid s.queued = s.queued := numbered.pids _ numbered.queued
  unfold pendsv
  split
  case isTrue same =>
    exact consistent.of_fields rfl rfl rfl (Finset.Subset.refl live)
      fun _ _ => same.trans runningPid
  case isFalse different =>
    rw [runningPid] at different
    have status : ∀ task, (s.contextSwitch stackptr now now').status task =
        if task = s.queued then .running
        else if task = s.running then (stopped stackptr now (s.table s.running)).taskStatus
        else s.status task := by
      intro task
      have switched := change_status (s.change s.running (stopped stackptr now)) s.queued task
        (resumed now')
      rw [change_status s s.running] at switched
      exact switched
    have running : (s.contextSwitch stackptr now now').running = s.queued := queuedPid
    refine ⟨fun _ _ => running.symm, ?_, .inl ?_⟩
    · intro task positive bound active
      change (s.contextSwitch stackptr now now').status task = .running at active
      change task = (s.contextSwitch stackptr now now').running
      rw [running]
      rw [status] at active
      split_ifs at active with isQueued isRunning
      · exact isQueued
      · unfold stopped at active
        split at active
        case isTrue => exact absurd active (by simp)
        case isFalse inactive => exact absurd active inactive
      · exact absurd (consistent.only task positive bound active) isRunning
    · change (s.contextSwitch stackptr now now').status (s.contextSwitch stackptr now now').running = _
      rw [running, status, if_pos rfl]

variable [PicoSdk] {now now' now'' : AbsoluteTime} {read : ItemsAsTasks}

/-- A decision that is not to keep the running task asks for PendSV. -/
theorem Chooses.served (chooses : s.Chooses now s') (quiet : s'.requested = false) :
    s'.queued = s'.running := by
  have kept : (s.running != s.pid (s.choice now)) = false := by
    rw [chooses.requested, Bool.or_eq_false_iff] at quiet
    exact quiet.2
  rw [chooses.queued, chooses.running]
  exact (bne_eq_false_iff_eq.mp kept).symm

theorem consistent_yield (consistent : Consistent live s) : Consistent live (s.yield now) := by
  obtain ⟨maxPid, running, -, -, -, -, status, -⟩ := yield_fields s now
  exact consistent.of_fields maxPid running status (Finset.Subset.refl live)
    fun quiet _ => (yield_chooses s now).served quiet

theorem consistent_kill (consistent : Consistent live s) :
    Consistent (live.erase task) (s.kill task now) := by
  obtain ⟨maxPid, running, -, -, -, -, status, -⟩ := kill_fields s task now
  exact (consistent_complete consistent).of_fields maxPid running status
    (Finset.Subset.refl _) fun quiet _ => (kill_chooses s task now).served quiet

theorem consistent_postpone {deadline : AbsoluteTime} (consistent : Consistent live s) :
    Consistent live (s.postpone task deadline read) := by
  obtain ⟨maxPid, running, queued, requested, taken, -, -, status⟩ :=
    postpone_fields s task deadline read
  apply consistent.of_fields maxPid running status (Finset.Subset.refl live)
  rw [requested, taken, queued, running]
  exact consistent.served

theorem consistent_createTask {args : CreateTaskArgs} (consistent : Consistent live s)
    (numbered : Numbered live s) :
    Consistent (insert s.maxPid live) (s.createTask args read) := by
  obtain ⟨maxPid, running, queued, requested, taken, -⟩ := createTask_fields s args read
  have older : s.running ≠ s.maxPid := Nat.ne_of_lt numbered.running
  have status : ∀ task, (s.createTask args read).status task =
      if task = s.maxPid then .sleeping else s.status task := by
    intro task
    have table := (enqueue_fields ({ s with maxPid := s.maxPid + 1 }.change s.maxPid
      (newborn s.maxPid args)) s.maxPid read).1
    rw [createTask, Scheduler.status, table, ← Scheduler.status, change_status]
    rfl
  refine ⟨?_, ?_, ?_⟩
  · rw [requested, taken, queued, running]
    exact consistent.served
  · intro task positive bound active
    rw [status] at active
    rw [maxPid] at bound
    rw [running]
    split_ifs at active with newest
    exact consistent.only task positive (Nat.lt_of_le_of_ne (Nat.le_of_lt_succ bound) newest) active
  · rw [running, status, if_neg older, Finset.mem_insert]
    exact consistent.runs.imp id (And.imp id fun dead => not_or.mpr ⟨older, dead⟩)

theorem consistent_step {action : Action} (consistent : Consistent live s)
    (invariant : Invariant live s) (legal : s.Legal live action) :
    Consistent (s.liveAfter live action) (s.step action) := by
  have cleared : Consistent live { s with trace := [] } :=
    ⟨consistent.served, consistent.only, consistent.runs⟩
  have good := invariant.of_record [] s.requested s.taken
  have effect := step_effect invariant legal
  generalize s.liveAfter live action = live', s.step action = s' at effect ⊢
  cases effect with
  | idle => exact cleared
  | yield _ now => exact consistent_yield cleared
  | createTask stackptr args now room => exact consistent_createTask cleared good.numbered
  | sleepUntil stackptr args now alive notSpin => exact consistent_yield (consistent_postpone cleared)
  | kill _ victim now alive notSpin => exact consistent_kill cleared
  | takePendsv => exact ⟨by simp, consistent.only, consistent.runs⟩
  | pendsv stackptr now now' => exact consistent_pendsv cleared good.numbered

/-! ## Killed tasks in the slot -/

section Followed

variable {doomed : Prop} (followed : Followed live doomed s)
include followed

omit [PicoSdk] in
theorem Followed.of_fields (running : s'.running = s.running) (status : s'.status = s.status)
    (queued : s'.queued = s.queued) : Followed live doomed s' := by
  obtain ⟨ended, slot⟩ := followed
  constructor
  · rw [running, status]
    exact ended
  · rw [queued, running]
    exact slot

/-- A choice falls on a live task. -/
theorem followed_yield (now : AbsoluteTime) (invariant : Invariant live s) : Followed live False (s.yield now) := by
  obtain ⟨-, running, queued, -, -, -, status, -⟩ := yield_fields s now
  have chosen := choice_live now invariant
  constructor
  · rw [running, status]
    exact followed.ended
  · rw [queued, invariant.pid chosen]
    exact iff_of_false id fun doomed => doomed.1 chosen

theorem followed_postpone {deadline : AbsoluteTime} :
    Followed live doomed (s.postpone task deadline read) := by
  obtain ⟨-, running, queued, -, -, -, -, status⟩ := postpone_fields s task deadline read
  exact followed.of_fields running status queued

/-- The choice of a KILL can fall on the victim. -/
theorem followed_kill (task : TaskPtr) (now : AbsoluteTime) (invariant : Invariant live s) :
    Followed (live.erase task) (task ≠ s.running ∧ s.choice now = task) (s.kill task now) := by
  obtain ⟨-, running, queued, -, -, -, status, -⟩ := kill_fields s task now
  have chosen := choice_live now invariant
  have killed : ∀ other ∈ live, other ∉ live.erase task ↔ other = task := by
    intro other alive
    simp [alive]
  constructor
  · rw [running, status, Scheduler.complete, change_status]
    intro dead
    split_ifs with victim
    · rfl
    · exact followed.ended fun alive => dead (Finset.mem_erase.mpr ⟨victim, alive⟩)
  · rw [queued, running, invariant.pid chosen, killed _ chosen]
    constructor
    · rintro ⟨other, falls⟩
      exact ⟨falls, falls ▸ other⟩
    · rintro ⟨falls, other⟩
      exact ⟨falls ▸ other, falls⟩

theorem followed_createTask {args : CreateTaskArgs} (numbered : Numbered live s) :
    Followed (insert s.maxPid live) doomed (s.createTask args read) := by
  obtain ⟨-, running, queued, -⟩ := createTask_fields s args read
  have status : (s.createTask args read).status s.running = s.status s.running := by
    have table := (enqueue_fields ({ s with maxPid := s.maxPid + 1 }.change s.maxPid
      (newborn s.maxPid args)) s.maxPid read).1
    rw [createTask, Scheduler.status, table, ← Scheduler.status, change_status,
      if_neg (Nat.ne_of_lt numbered.running)]
    rfl
  have older : ∀ other < s.maxPid, other ∉ insert s.maxPid live ↔ other ∉ live := by
    intro other created
    simp [Nat.ne_of_lt created]
  constructor
  · rw [running, status, older _ numbered.running]
    exact followed.ended
  · rw [queued, running, older _ numbered.queued]
    exact followed.slot

omit [PicoSdk] in
/-- Without a killed task in the slot PendSV switches to a live one, if to any. -/
theorem followed_pendsv {stackptr : Word} (numbered : Numbered live s) (unmarked : ¬ doomed) :
    Followed live doomed { s.pendsv stackptr now now' with taken := false } := by
  unfold pendsv
  split
  case isTrue same => exact followed.of_fields rfl rfl rfl
  case isFalse different =>
    rw [numbered.pids _ numbered.running] at different
    have running : (s.contextSwitch stackptr now now').running = s.queued :=
      numbered.pids _ numbered.queued
    have alive : s.queued ∈ live := by
      by_contra dead
      exact unmarked (followed.slot.mpr ⟨dead, different⟩)
    constructor
    · intro dead
      change (s.contextSwitch stackptr now now').running ∉ live at dead
      rw [running] at dead
      exact absurd alive dead
    · exact iff_of_false unmarked fun doomed => doomed.2 running.symm

end Followed

omit [PicoSdk] in
/-- With one there it is switched to, and marked as running. -/
theorem doomed_pendsv (stackptr : Word) (now now' : AbsoluteTime) (numbered : Numbered live s)
    (slot : s.queued ∉ live ∧ s.queued ≠ s.running) :
    (s.pendsv stackptr now now').running ∉ live ∧
      (s.pendsv stackptr now now').status (s.pendsv stackptr now now').running = .running := by
  have different : s.queued ≠ s.pid s.running := by
    rw [numbered.pids _ numbered.running]
    exact slot.2
  have running : (s.contextSwitch stackptr now now').running = s.queued :=
    numbered.pids _ numbered.queued
  have switched := change_status (s.change s.running (stopped stackptr now)) s.queued s.queued
    (resumed now')
  rw [if_pos rfl] at switched
  rw [pendsv, if_neg different]
  change (s.contextSwitch stackptr now now').running ∉ live ∧
    (s.contextSwitch stackptr now now').status (s.contextSwitch stackptr now now').running = _
  rw [running]
  exact ⟨slot.1, switched⟩

end Scheduler

open KernelRefinement

/-- With no PendSV pending nor under way the queued task is running, and the status
RUNNING is the running task's alone among the created ones. -/
structure System.SwitchesServed (system : System) : Prop where
  served : system.kernel.pendsvPending = false → system.kernel.pendsvActive = false →
    system.kernel.queued = system.kernel.running
  only : ∀ task, 0 < task → task < system.kernel.currentMaxPid →
    (system.kernel.taskList task).taskStatus = .running → task = system.kernel.running

/-- The running task also has this status, or is complete if it was killed. -/
structure System.SwitchesConsistently (system : System) : Prop extends system.SwitchesServed where
  runs : system.kernel.running ∈ system.live →
    (system.kernel.taskList system.kernel.running).taskStatus = .running
  ended : system.kernel.running ∉ system.live →
    (system.kernel.taskList system.kernel.running).taskStatus = .complete

section Runs

variable [PicoSdk]

/-- Whether the last decision was a KILL that fell on its victim, another task than
the running one. -/
def System.dooms (system : System) (doomed : Prop) : Action → Prop
  | .svc _ syscall args now =>
    if syscall = syscallKill then
      args.pid ≠ system.kernel.running ∧ system.kernel.TurnsTo args.pid now
    else if syscall = syscallYield ∨ syscall = syscallSleepUntil ∨ syscall = syscallDie then False
    else doomed
  | .systick _ now now' _ => ¬ system.kernel.RescheduleRequired now now' ∧ doomed
  | .takePendsv | .pendsv _ _ _ => doomed

variable {mask : InterruptMask} {system next : System} {s : Scheduler} {action : Action}
variable {doomed : Prop}

theorem followed_step (good : Good mask system s) (legal : system.Legal action)
    (followed : Scheduler.Followed system.live doomed s) (averted : doomed → ¬ action.Switches) :
    Scheduler.Followed (s.liveAfter system.live action) (system.dooms doomed action)
      (s.step action) := by
  have running := good.running
  have quiet := good.invariant.of_record [] s.requested s.taken
  have cleared : Scheduler.Followed system.live doomed { s with trace := [] } :=
    followed.of_fields rfl rfl rfl
  cases action with
  | svc stackptr number args now =>
    rcases legal with rfl | ⟨rfl, room⟩ | ⟨rfl, caller⟩ | ⟨rfl, caller⟩ | ⟨rfl, alive, notSpin⟩ | unknown
    · exact Scheduler.followed_yield cleared now quiet
    · exact Scheduler.followed_createTask cleared quiet.numbered
    · have asleep : Scheduler.Invariant system.live
          ({ s with trace := [] }.postpone s.running args.milliseconds args.itemsAsTasks) :=
        Scheduler.invariant_postpone _ _ quiet (running ▸ caller.1) (running ▸ caller.2)
      exact Scheduler.followed_yield (Scheduler.followed_postpone cleared) now asleep
    · have self : s.pid s.running = s.running := good.invariant.pid (running ▸ caller.1)
      have killed := Scheduler.followed_kill cleared s.running now quiet
      have settled : Scheduler.Followed (system.live.erase s.running) False
          ({ s with trace := [] }.kill (s.pid s.running) now) := by
        rw [self]
        exact ⟨killed.ended, killed.slot.symm.trans ⟨fun other => other.1 rfl, False.elim⟩ |>.symm⟩
      exact settled
    · have killed := Scheduler.followed_kill cleared args.pid now quiet
      refine ⟨killed.ended, Iff.trans ?_ killed.slot⟩
      change (args.pid ≠ system.kernel.running ∧ system.kernel.TurnsTo args.pid now) ↔ _
      rw [turnsTo_choice good, running]
      rfl
    · rw [Scheduler.liveAfter_unknown unknown]
      change Scheduler.Followed _ _ (Scheduler.syscall _ number args now)
      have beyond {known : Word} : known ≤ syscallTaskNextTick → number ≠ known := ne_of_unknown unknown
      have unmarked : system.dooms doomed (.svc stackptr number args now) = doomed := by
        simp [System.dooms, beyond (by decide : syscallKill ≤ _), beyond (by decide : syscallYield ≤ _),
          beyond (by decide : syscallSleepUntil ≤ _), beyond (by decide : syscallDie ≤ _)]
      rw [unmarked, Scheduler.syscall_unknown unknown]
      exact cleared
  | systick stackptr now now' now'' =>
    have required : system.kernel.RescheduleRequired now now' ↔ s.RescheduleRequired now now' := by
      rw [← good.outside.shows]
      exact Iff.rfl
    change Scheduler.Followed _ _ (Scheduler.systick _ now now' now'')
    rw [System.dooms, required, Scheduler.systick]
    split_ifs with reschedules
    · have chosen := Scheduler.followed_yield cleared now'' quiet
      exact ⟨chosen.ended, (iff_of_false (fun both => both.1 reschedules) id).trans chosen.slot⟩
    · exact ⟨followed.ended, (and_iff_right reschedules).trans followed.slot⟩
  | takePendsv => exact cleared.of_fields rfl rfl rfl
  | pendsv stackptr now now' =>
    exact Scheduler.followed_pendsv cleared quiet.numbered fun marked => averted marked trivial

variable [Malloc]

/-- What the runs keep. -/
def Tracks (doomed : Prop) (system : System) : Prop :=
  ∃ mask s, Good mask system s ∧ s.Consistent system.live ∧ s.Followed system.live doomed

omit [PicoSdk] [Malloc] in
theorem Tracks.consistent (tracks : Tracks doomed system) : system.SwitchesConsistently := by
  obtain ⟨mask, s, ⟨⟨sound, rfl, free, enabled, log⟩, invariant⟩, consistent, followed⟩ := tracks
  refine ⟨⟨consistent.served, consistent.only⟩, ?_, followed.ended⟩
  exact fun alive => consistent.runs.resolve_right fun dead => dead.2 alive

/-- The step lemma. -/
theorem tracks_step (tracks : Tracks doomed system) (legal : system.Legal action)
    (stepped : system.step action = some next) :
    (system.LeadsTo System.SwitchesConsistently action ↔ (doomed → ¬ action.Switches)) ∧
      (system.LeadsTo System.SwitchesConsistently action →
        Tracks (system.dooms doomed action) next) := by
  obtain ⟨mask, s, good, consistent, followed⟩ := tracks
  obtain ⟨good', live⟩ := good_step good legal stepped
  have tracked (averted : doomed → ¬ action.Switches) : Tracks (system.dooms doomed action) next :=
    ⟨_, _, good', live ▸ Scheduler.consistent_step consistent good.invariant ((legal_iff good).mp legal),
      live ▸ followed_step good legal followed averted⟩
  have leads : system.LeadsTo System.SwitchesConsistently action ↔ (doomed → ¬ action.Switches) := by
    constructor
    · intro leads marked switches
      cases action with
      | pendsv stackptr now now' =>
        have quiet := (good.invariant.of_record [] s.requested s.taken).numbered
        obtain ⟨dead, active⟩ := Scheduler.doomed_pendsv stackptr now now' quiet
          (followed.slot.mp marked)
        have complete := (leads next stepped).ended
        obtain ⟨⟨sound, shows, free, enabled, log⟩, invariant⟩ := good'
        have runs : next.kernel.running = _ := congrArg Scheduler.running shows
        have status : (fun task => (next.kernel.taskList task).taskStatus) = _ :=
          congrArg Scheduler.status shows
        rw [live] at complete
        rw [runs] at complete
        have ended := complete dead
        have same := congrFun status (s.step (.pendsv stackptr now now')).running
        rw [same] at ended
        have both := active.symm.trans ended
        exact absurd both (by decide)
      | _ => exact switches
    · intro averted next' stepped'
      obtain rfl : next = next' := Option.some.inj (stepped.symm.trans stepped')
      exact (tracked averted).consistent
  exact ⟨leads, fun kept => tracked (leads.mp kept)⟩

theorem tracks_started (isStarted : system.Started) : Tracks False system := by
  obtain ⟨s, good, initial⟩ := started_good isStarted
  refine ⟨false, s, good, ⟨?_, ?_, ?_⟩, ⟨?_, ?_⟩⟩
  · exact fun _ _ => initial.queued.trans initial.running.symm
  · exact fun task positive bound active =>
      (initial.others task positive bound active).trans initial.running.symm
  · exact .inl (initial.running ▸ initial.spins)
  · exact fun dead => absurd (initial.running ▸ good.invariant.spin) dead
  · exact iff_of_false id fun doomed => doomed.2 (initial.queued.trans initial.running.symm)

/-- Whatever is killed, requests are served and no other task is marked as running. -/
theorem runs_served {actions : List Action} {final : System}
    (good : Good mask system s) (consistent : s.Consistent system.live)
    (run : System.Runs System.Legal actions system final) :
    System.Runs (System.LeadsTo System.SwitchesServed) actions system final := by
  induction actions generalizing mask system s with
  | nil => exact run
  | cons action rest ih =>
    obtain ⟨legal, next, stepped, run⟩ := run
    obtain ⟨good', live⟩ := good_step good legal stepped
    have after := Scheduler.consistent_step consistent good.invariant ((legal_iff good).mp legal)
    rw [← live] at after
    refine ⟨?_, next, stepped, ih good' after run⟩
    intro next' stepped'
    obtain rfl : next = next' := Option.some.inj (stepped.symm.trans stepped')
    obtain ⟨⟨sound, shows, free, enabled, log⟩, invariant⟩ := good'
    rw [← shows] at after
    exact ⟨after.served, after.only⟩

end Runs

theorem switches_consistently_iff [PicoSdk] [Malloc] (started final : System)
    (isStarted : started.Started) (actions : List Action)
    (run : System.Runs System.Legal actions started final) :
    started.SwitchesConsistently ∧
      System.Runs (System.LeadsTo System.SwitchesServed) actions started final ∧
        (System.Runs (System.LeadsTo System.SwitchesConsistently) actions started final ↔
          System.Averts System.dooms False actions started) := by
  have tracks := tracks_started isStarted
  refine ⟨tracks.consistent, ?_, ?_⟩
  · obtain ⟨mask, s, good, consistent, -⟩ := tracks
    exact runs_served good consistent run
  · exact runs_iff_averts Tracks (fun _ _ _ _ => tracks_step) tracks run

section Example

attribute [local instance] PicoSdk.reference Malloc.reference

/-- The last of three tasks kills the first one, which does not come next. PendSV
switches to the second one, which dies. -/
private def mournedRun : List Action := [
  .svc 0 syscallYield .zero 100, .takePendsv, .pendsv 0 101 102,
  .svc 0 syscallKill { SyscallArgs.zero with pid := 2 } 200, .takePendsv, .pendsv 0 201 202,
  .svc 0 syscallDie .zero 300, .takePendsv, .pendsv 0 301 302]

/-- The call is no KILL of the task that comes next. -/
private def spares (s : Scheduler) : Action → Prop
  | .svc _ syscall args now => syscall = syscallKill → s.choice now ≠ args.pid
  | _ => True

private instance (s : Scheduler) : DecidablePred (spares s)
  | .svc _ _ _ _ => inferInstanceAs (Decidable (_ → _))
  | .systick _ _ _ _ | .takePendsv | .pendsv _ _ _ => inferInstanceAs (Decidable True)

private def mourned : Option (InterruptMask × Finset Pid × Scheduler) :=
  Scheduler.run (fun _ live s action => s.Legal live action ∧ spares s action) mournedRun
    (false, atStart 0 0 (List.replicate 3 SyscallArgs.zero.createTask) 0)

private theorem mourned_isSome : mourned.isSome := by decide +kernel

private theorem not_dooms {mask : InterruptMask} {system : System} {s : Scheduler} {action : Action}
    (good : Good mask system s) (spared : spares s action) : ¬ system.dooms False action := by
  cases action with
  | svc stackptr number args now =>
    intro doomed
    rw [System.dooms] at doomed
    split_ifs at doomed with kills
    exact spared kills ((turnsTo_choice good).mp doomed.2)
  | systick stackptr now now' now'' => exact And.right
  | takePendsv => exact id
  | pendsv stackptr now now' => exact id

theorem switches_consistently_iff_example : ∃ started final : System, started.Started ∧
    System.Runs System.Legal mournedRun started final ∧ final.live = {1, 4} ∧
      System.Runs (System.LeadsTo System.SwitchesConsistently) mournedRun started final := by
  obtain ⟨final, ⟨started, isStarted, run⟩, -, live⟩ := reachedBy_of_run
    (fun system action => system.Legal action ∧ ¬ system.dooms False action) 0 0 _ 0
    (fun _ _ _ _ good both =>
      ⟨⟨(legal_iff good).mpr both.1, not_dooms good both.2⟩, (legal_iff good).mpr both.1⟩)
    (by decide) (Option.some_get mourned_isSome).symm
  have legal : System.Runs System.Legal mournedRun started final := run.imp fun _ _ => And.left
  refine ⟨started, final, isStarted, legal, live.trans (by decide +kernel), ?_⟩
  apply (switches_consistently_iff started final isStarted mournedRun legal).2.2.mpr
  exact averts_append (run.imp fun _ _ => And.right) trivial

/-- The last of three tasks kills the second one, which comes next, and PendSV
switches to the killed task. -/
private def hauntedRun : List Action := [
  .svc 0 syscallYield .zero 100, .takePendsv, .pendsv 0 101 102,
  .svc 0 syscallKill { SyscallArgs.zero with pid := 3 } 200, .takePendsv, .pendsv 0 201 202]

private def haunted : Option (InterruptMask × Finset Pid × Scheduler) :=
  Scheduler.run Scheduler.Permitted hauntedRun
    (false, atStart 0 0 (List.replicate 3 SyscallArgs.zero.createTask) 0)

private theorem haunted_isSome : haunted.isSome := by decide +kernel

theorem killed_task_running : ∃ (system : System) (actions : List Action),
    system.ReachedBy System.Permitted actions ∧ system.kernel.running = 3 ∧ 3 ∉ system.live ∧
      (system.kernel.taskList 3).taskStatus = .running ∧ ¬ system.SwitchesConsistently := by
  obtain ⟨system, reached, good, live⟩ := reachedBy_of_run _ 0 0 _ 0 permitted_mirrors (by decide)
    (Option.some_get haunted_isSome).symm
  have running : system.kernel.running = 3 := good.running.trans (by decide +kernel)
  have dead : 3 ∉ system.live := by
    rw [live]
    decide +kernel
  have status : (system.kernel.taskList 3).taskStatus = .running := by
    have shown : (system.kernel.taskList 3).taskStatus = _ :=
      congrArg (fun s => s.status 3) good.outside.shows
    exact shown.trans (by decide +kernel)
  refine ⟨system, hauntedRun, reached, running, dead, status, ?_⟩
  intro consistent
  have complete := consistent.ended (running ▸ dead)
  rw [running, status] at complete
  exact absurd complete (by decide)

end Example

end Gkrtos
