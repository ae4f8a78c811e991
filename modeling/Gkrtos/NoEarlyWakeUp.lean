import Gkrtos.Runs

/-! A task that sleeps until a deadline is left alone before its time. It is not
in the ring, the comparison that takes it out of the scheduled queue is with its
own deadline, and the slot for the switch held another task from the moment it
fell asleep. What it would take is the task itself calling again, and it does
not get the core back for that. -/
namespace Gkrtos
open KernelRefinement

/-- A task that was chosen was chosen at a time from which the deadline is a
systick period away. -/
def Event.Early (deadline : AbsoluteTime) : Event → Prop
  | .selected _ time _ => time.toNat + 1000 ≤ deadline.toNat
  | .dispatched _ => True

instance (deadline : AbsoluteTime) : DecidablePred (Event.Early deadline)
  | .selected _ _ _ => inferInstanceAs (Decidable (_ ≤ _))
  | .dispatched _ => inferInstanceAs (Decidable True)

def Early (deadline : AbsoluteTime) (trace : List Event) : Prop :=
  ∀ event ∈ trace, event.Early deadline

instance (deadline : AbsoluteTime) : DecidablePred (Early deadline) := fun trace =>
  inferInstanceAs (Decidable (∀ event ∈ trace, event.Early deadline))

namespace Scheduler

variable {live : Finset Pid} {s : Scheduler} {task other : Pid} {deadline time : AbsoluteTime}
variable {now now' now'' : AbsoluteTime}

/-- The task sleeps until the deadline, if it is still alive, and the last
handler run was not about it. -/
structure Sleeping (live : Finset Pid) (s : Scheduler) (task : Pid) (deadline : AbsoluteTime) :
    Prop where
  sleeps : task ∈ live → s.deadline task = deadline
  created : task < s.maxPid
  unseen : Unseen s.trace task

/-- It is also not in the slot, and if it has the core still a switch is under
way. -/
structure Asleep (live : Finset Pid) (s : Scheduler) (task : Pid) (deadline : AbsoluteTime) : Prop
    extends Sleeping live s task deadline where
  unqueued : s.queued ≠ task
  leaving : s.running = task → s.requested = true ∨ s.taken = true

/-- A task that dies no longer has to sleep. -/
theorem Asleep.erase (asleep : Asleep live s task deadline) :
    Asleep (live.erase other) s task deadline :=
  { asleep with sleeps := fun alive => asleep.sleeps (Finset.mem_of_mem_erase alive) }

/-- A switch goes to another task. -/
theorem asleep_pendsv {stackptr : Word} (asleep : Asleep live s task deadline)
    (invariant : Invariant live s) :
    Asleep live { s.pendsv stackptr now now' with taken := false } task deadline := by
  obtain ⟨⟨sleeps, created, unseen⟩, unqueued, leaving⟩ := asleep
  have running := invariant.numbered.pids _ invariant.numbered.running
  have queued := invariant.numbered.pids _ invariant.numbered.queued
  unfold pendsv
  split_ifs with same
  · refine ⟨⟨sleeps, created, unseen⟩, unqueued, ?_⟩
    intro runs
    exact absurd (same.trans (running.trans runs)) unqueued
  · refine ⟨⟨?_, created, ?_⟩, unqueued, ?_⟩
    · intro alive
      have kept := congrFun (contextSwitch_pid_deadline s stackptr now now').2 task
      exact Eq.trans kept (sleeps alive)
    · apply unseen.append
      exact ne_of_eq_of_ne queued unqueued
    · intro runs
      exact absurd (queued.symm.trans runs) unqueued

variable [PicoSdk]

/-- Before its time a sleeping task is not chosen. -/
theorem Sleeping.unchosen (sleeping : Sleeping live s task deadline) (invariant : Invariant live s)
    (positive : 0 < deadline.toNat) (representable : deadline.toNat < 2 ^ 63)
    (early : now.toNat + 1000 ≤ deadline.toNat) : s.choice now ≠ task := by
  rintro rfl
  have chosen := choice_live now invariant
  have asleep := sleeping.sleeps chosen
  cases due : s.due now with
  | some first =>
    have isDue := (due_eq_some.mp due).2
    rw [← choice_due due, isDue_iff (Nat.lt_of_le_of_lt early representable) (asleep ▸ representable),
      asleep] at isDue
    omega
  | none =>
    have member := choice_mem_ring now invariant
    rw [select_idle due] at member
    have awake := (invariant.placed.mem_ring.mp (List.mem_rotate.mp member)).2
    rw [asleep] at awake
    simp [awake, nilTime] at positive

/-- The bounds on the deadline of a sleep. -/
structure Timed (deadline : AbsoluteTime) : Prop where
  positive : 0 < deadline.toNat
  representable : deadline.toNat < 2 ^ 63

/-- A choice that is early leaves the task asleep, and puts another one into the
slot. -/
theorem asleep_chooses {s' : Scheduler} (sleeping : Sleeping live s task deadline)
    (invariant : Invariant live s) (timed : Timed deadline) (chooses : s.Chooses now s')
    (early : Early deadline s'.trace) : Asleep live s' task deadline := by
  have choice : Event.selected (s.choice now) now (s.due now).isSome ∈ s'.trace := by
    simp [chooses.trace]
  have unchosen := sleeping.unchosen invariant timed.positive timed.representable
    (early _ choice)
  have pid := invariant.pid (choice_live now invariant)
  refine ⟨⟨?_, ?_, ?_⟩, ?_, ?_⟩
  · intro alive
    have notDue : s.due now ≠ some task := fun due => unchosen (choice_due due)
    rw [chooses.deadline, select_deadline, if_neg notDue]
    exact sleeping.sleeps alive
  · rw [chooses.maxPid]
    exact sleeping.created
  · rw [chooses.trace]
    exact sleeping.unseen.append unchosen
  · rw [chooses.queued, pid]
    exact unchosen
  · intro same
    left
    rw [chooses.running] at same
    rw [chooses.requested, same, pid]
    simp [Ne.symm unchosen]

theorem sleeping_postpone {until' : AbsoluteTime} {read : ItemsAsTasks}
    (sleeping : Sleeping live s task deadline) (different : task ≠ other) :
    Sleeping live (s.postpone other until' read) task deadline := by
  obtain ⟨maxPid, -, -, -, -, trace, -, -⟩ := postpone_fields s other until' read
  refine ⟨?_, ?_, ?_⟩
  · intro alive
    rw [postpone_deadline, if_neg different]
    exact sleeping.sleeps alive
  · rw [maxPid]
    exact sleeping.created
  · rw [trace]
    exact sleeping.unseen

theorem asleep_createTask {args : CreateTaskArgs} {read : ItemsAsTasks}
    (asleep : Asleep live s task deadline) :
    Asleep (insert s.maxPid live) (s.createTask args read) task deadline := by
  obtain ⟨maxPid, running, queued, requested, taken, trace⟩ := createTask_fields s args read
  obtain ⟨⟨sleeps, created, unseen⟩, unqueued, leaving⟩ := asleep
  have old : task ≠ s.maxPid := Nat.ne_of_lt created
  refine ⟨⟨?_, ?_, ?_⟩, ?_, ?_⟩
  · intro alive
    rw [createTask_deadline]
    exact sleeps (Finset.mem_of_mem_insert_of_ne alive old)
  · rw [maxPid]
    exact Nat.lt_succ_of_lt created
  · rw [trace]
    exact unseen
  · rw [queued]
    exact unqueued
  · rw [running, requested, taken]
    exact leaving

/-- A task that calls `sleep_until` has the core: no switch is under way. -/
def CallerRuns (s : Scheduler) : Action → Prop
  | .svc _ number _ _ => number = syscallSleepUntil → s.requested = false ∧ s.taken = false
  | _ => True

instance (s : Scheduler) : DecidablePred s.CallerRuns
  | .svc _ _ _ _ => inferInstanceAs (Decidable (_ → _))
  | .systick _ _ _ _ | .takePendsv | .pendsv _ _ _ => inferInstanceAs (Decidable True)

/-- The step lemma. -/
theorem asleep_step {action : Action} (asleep : Asleep live s task deadline)
    (invariant : Invariant live s) (timed : Timed deadline) (legal : s.Legal live action)
    (awake : s.CallerRuns action) (early : Early deadline (s.step action).trace) :
    Asleep (s.liveAfter live action) (s.step action) task deadline := by
  have good := invariant.of_record [] s.requested s.taken
  have cleared : Asleep live { s with trace := [] } task deadline :=
    ⟨⟨asleep.sleeps, asleep.created, .nil⟩, asleep.unqueued, asleep.leaving⟩
  have effect := step_effect invariant legal
  generalize s.liveAfter live action = live', s.step action = s' at effect early ⊢
  cases effect with
  | idle => exact cleared
  | yield _ now => exact asleep_chooses cleared.toSleeping good timed (yield_chooses _ now) early
  | createTask stackptr args now room => exact asleep_createTask cleared
  | sleepUntil stackptr args now alive notSpin =>
    -- The caller has the core, so it is another task.
    have different : task ≠ s.running := by
      rintro rfl
      obtain ⟨notRequested, notTaken⟩ := awake rfl
      have leaving := asleep.leaving rfl
      simp [notRequested, notTaken] at leaving
    have postponed := invariant_postpone args.milliseconds args.itemsAsTasks good alive notSpin
    exact asleep_chooses (sleeping_postpone cleared.toSleeping different) postponed timed
      (yield_chooses _ now) early
  | kill _ victim now alive notSpin =>
    exact (asleep_chooses cleared.toSleeping good timed (kill_chooses _ _ now) early).erase
  | takePendsv =>
    exact ⟨⟨asleep.sleeps, asleep.created, .nil⟩, asleep.unqueued, fun _ => .inr rfl⟩
  | pendsv stackptr now now' => exact asleep_pendsv cleared good

/-- Falling asleep. -/
theorem asleep_sleepUntil {read : ItemsAsTasks} (invariant : Invariant live s) (alive : s.running ∈ live)
    (notSpin : s.running ≠ 1) (quiet : s.trace = []) (timed : Timed deadline)
    (early : Early deadline (s.sleepUntil s.running deadline now read).trace) :
    Asleep live (s.sleepUntil s.running deadline now read) s.running deadline := by
  have postponed := invariant_postpone deadline read invariant alive notSpin
  obtain ⟨maxPid, -, -, -, -, trace, -, -⟩ := postpone_fields s s.running deadline read
  refine asleep_chooses ⟨?_, ?_, ?_⟩ postponed timed (yield_chooses _ now) early
  · intro _
    rw [postpone_deadline, if_pos rfl]
  · rw [maxPid]
    exact invariant.numbered.created _ alive
  · rw [trace, quiet]
    exact .nil

end Scheduler

section Runs

variable [PicoSdk] [Malloc]

/-- A task that calls `sleep_until` has the core: no switch is under way, which
would come in before its code goes on. -/
def System.CallerRuns (system : System) : Action → Prop
  | .svc _ syscall _ _ => syscall = syscallSleepUntil →
    system.kernel.pendsvPending = false ∧ system.kernel.pendsvActive = false
  | _ => True

def System.CallsAwake (system : System) (action : Action) : Prop :=
  system.Legal action ∧ system.CallerRuns action

/-- In addition, a task that is chosen is chosen at a time from which the deadline
is a systick period away. -/
def System.CallsEarly (deadline : AbsoluteTime) (system : System) (action : Action) : Prop :=
  system.CallsAwake action ∧
    ∀ system', system.step action = some system' → Early deadline system'.kernel.trace

variable {mask : InterruptMask} {system : System} {s : Scheduler} {action : Action}

omit [PicoSdk] [Malloc] in
theorem callerRuns_iff (good : Good mask system s) :
    system.CallerRuns action ↔ s.CallerRuns action := by
  obtain ⟨⟨sound, rfl, free, enabled, log⟩, invariant⟩ := good
  cases action <;> exact Iff.rfl

/-- The run lemma. -/
theorem asleep_run {task : Pid} {deadline : AbsoluteTime} {final : System} (good : Good mask system s)
    (asleep : s.Asleep system.live task deadline) (timed : Scheduler.Timed deadline)
    (run : Relation.ReflTransGen (System.Step (System.CallsEarly deadline)) system final) :
    ∃ mask s, Good mask final s ∧ s.Asleep final.live task deadline := by
  apply run_induction (fun _ live s => s.Asleep live task deadline) _ _ good asleep run
  · exact fun system action allowed => allowed.1.1
  · rintro mask system s action good ⟨⟨legal, callerRuns⟩, early⟩ asleep
    obtain ⟨system', stepped, good', -⟩ := step_simulates good legal
    apply Scheduler.asleep_step asleep good.invariant timed ((legal_iff good).mp legal)
      ((callerRuns_iff good).mp callerRuns)
    have record : system'.kernel.trace = (s.step action).trace := good'.trace
    rw [← record]
    exact early system' stepped

end Runs

theorem no_early_wake_up [PicoSdk] [Malloc] (system slept final : System)
    (reachable : system.Reachable System.Legal) (caller : system.Caller) (stackptr : Word)
    (args : SyscallArgs) (now : AbsoluteTime)
    (timed : 0 < args.milliseconds.toNat ∧ args.milliseconds.toNat < 2 ^ 63)
    (stepped : system.step (.svc stackptr syscallSleepUntil args now) = some slept)
    (early : Early args.milliseconds slept.kernel.trace)
    (run : Relation.ReflTransGen (System.Step (System.CallsEarly args.milliseconds)) slept final) :
    final.kernel.queued ≠ system.kernel.running ∧
      Unseen final.kernel.trace system.kernel.running := by
  obtain ⟨mask, s, good⟩ := reachable_good reachable
  have running : system.kernel.running = s.running := good.running
  have legal : system.Legal (.svc stackptr syscallSleepUntil args now) :=
    .inr (.inr (.inl ⟨rfl, caller⟩))
  obtain ⟨alive, notSpin⟩ := caller
  rw [running] at alive notSpin ⊢
  obtain ⟨slept', stepped', good', live⟩ := step_simulates good legal
  obtain rfl : slept = slept' := Option.some.inj (stepped.symm.trans stepped')
  have unchanged : slept.live = system.live := live
  have record : slept.kernel.trace = _ := good'.trace
  rw [record] at early
  have asleep := Scheduler.asleep_sleepUntil (good.invariant.of_record [] s.requested s.taken)
    alive notSpin rfl ⟨timed.1, timed.2⟩ early
  rw [← unchanged] at asleep
  obtain ⟨mask', s', good'', asleep'⟩ := asleep_run good' asleep ⟨timed.1, timed.2⟩ run
  obtain ⟨⟨sound, rfl, free, enabled, log⟩, invariant⟩ := good''
  exact ⟨asleep'.unqueued, asleep'.unseen⟩

section Example

attribute [local instance] PicoSdk.reference Malloc.reference

/-- The last of two tasks has its first turn. -/
private def turn : Option (InterruptMask × Finset Pid × Scheduler) :=
  Scheduler.run Scheduler.Permitted [.svc 0 syscallYield .zero 100, .takePendsv, .pendsv 0 101 102]
    (false, atStart 0 0 (List.replicate 2 SyscallArgs.zero.createTask) 0)

private theorem turn_isSome : turn.isSome := by decide +kernel

private def longSleep : SyscallArgs := { SyscallArgs.zero with milliseconds := 10000 }

private def fallenAsleep : InterruptMask × Finset Pid × Scheduler :=
  let (mask, live, s) := turn.get turn_isSome
  (s.maskAfter mask (.svc 0 syscallSleepUntil longSleep 200),
    s.liveAfter live (.svc 0 syscallSleepUntil longSleep 200),
    s.step (.svc 0 syscallSleepUntil longSleep 200))

private def callsEarly (_ : InterruptMask) (live : Finset Pid) (s : Scheduler) (action : Action) :
    Prop :=
  s.Legal live action ∧ s.CallerRuns action ∧ Early longSleep.milliseconds (s.step action).trace

private instance (mask : InterruptMask) (live : Finset Pid) (s : Scheduler) (action : Action) :
    Decidable (callsEarly mask live s action) :=
  inferInstanceAs (Decidable (_ ∧ _))

private theorem callsEarly_mirrors (mask : InterruptMask) (system : System) (s : Scheduler)
    (action : Action) (good : Good mask system s)
    (allowed : callsEarly mask system.live s action) :
    system.CallsEarly longSleep.milliseconds action ∧ system.Legal action := by
  obtain ⟨legal, callerRuns, early⟩ := allowed
  have legal' := (legal_iff good).mpr legal
  refine ⟨⟨⟨legal', (callerRuns_iff good).mpr callerRuns⟩, ?_⟩, legal'⟩
  intro system' stepped
  obtain ⟨other, stepped', good', -⟩ := step_simulates good legal'
  obtain rfl : system' = other := Option.some.inj (stepped.symm.trans stepped')
  have record : system'.kernel.trace = _ := good'.trace
  rw [record]
  exact early

/-- The others take turns while the task sleeps. -/
private def nightRun : List Action := [.takePendsv, .pendsv 0 201 202,
  .svc 0 syscallYield .zero 300, .takePendsv, .pendsv 0 301 302, .systick 0 8000 8000 8000]

private def night : Option (InterruptMask × Finset Pid × Scheduler) :=
  Scheduler.run callsEarly nightRun fallenAsleep

private theorem night_isSome : night.isSome := by decide +kernel

theorem no_early_wake_up_example : ∃ system slept final : System,
    system.Reachable System.Legal ∧ system.kernel.running = 3 ∧
      system.step (.svc 0 syscallSleepUntil longSleep 200) = some slept ∧
      Relation.ReflTransGen (System.Step (System.CallsEarly longSleep.milliseconds)) slept final ∧
      final.kernel.queued ≠ 3 ∧ Unseen final.kernel.trace 3 := by
  obtain ⟨system, reached, good, live⟩ := reachedBy_of_run _ 0 0 _ 0 permitted_mirrors (by decide)
    (Option.some_get turn_isSome).symm
  have reachable := reached.reachable.imp fun _ _ permitted => permitted.1
  have running : system.kernel.running = 3 := good.running.trans (by decide +kernel)
  have caller : system.Caller := by
    rw [caller_iff good, live]
    decide +kernel
  have legal : system.Legal (.svc 0 syscallSleepUntil longSleep 200) :=
    .inr (.inr (.inl ⟨rfl, caller⟩))
  obtain ⟨slept, stepped, good', live'⟩ := step_simulates good legal
  have early : Early longSleep.milliseconds slept.kernel.trace := by
    rw [good'.trace]
    decide +kernel
  have ran : Scheduler.run callsEarly nightRun (fallenAsleep.1, slept.live, fallenAsleep.2.2) =
      some (night.get night_isSome) := by
    rw [live', live]
    exact (Option.some_get night_isSome).symm
  obtain ⟨final, run, -⟩ := run_simulates callsEarly_mirrors good' ran
  refine ⟨system, slept, final, reachable, running, stepped, run.steps, ?_⟩
  have left := no_early_wake_up system slept final reachable caller 0 longSleep 200 (by decide)
    stepped early run.steps
  rwa [running] at left

end Example

end Gkrtos
