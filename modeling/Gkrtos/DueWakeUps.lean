import Gkrtos.Decisions

/-! Due wake-ups. A task that is woken up loses its deadline and goes to the back
of the ring before it has run; only the slot for the switch still remembers it.
A system call cannot come in before the switch, but a SysTick can, and when it
finds that rescheduling is required it chooses again. The wake-up is served
when no such SysTick puts another task into the slot. -/
namespace Gkrtos
open KernelRefinement

namespace Scheduler

variable {live : Finset Pid} {s : Scheduler} {task : Pid} {time now now' now'' : AbsoluteTime}

variable [PicoSdk]

/-! ## A wake-up asks for a switch -/

/-- The task is in the slot, and a switch has been requested unless it runs. -/
def AskedFor (s : Scheduler) (task : Pid) : Prop :=
  s.queued = task ∧ (s.running ≠ task → s.requested = true)

theorem askedFor_chooses {s' : Scheduler} (invariant : Invariant live s)
    (chooses : s.Chooses now s') : s'.AskedFor (s.choice now) := by
  have pid := invariant.pid (choice_live now invariant)
  rw [AskedFor, chooses.running, chooses.queued, chooses.requested, pid]
  refine ⟨rfl, ?_⟩
  intro different
  simp [different]

/-- A handler run that chose one task has recorded no other. -/
private theorem woken_chooses {s' : Scheduler} (invariant : Invariant live s) (quiet : s.trace = [])
    (chooses : s.Chooses now s') (member : Event.selected task time true ∈ s'.trace) :
    s'.AskedFor task := by
  rw [chooses.trace, quiet, List.nil_append, List.mem_singleton, Event.selected.injEq] at member
  rw [member.1]
  exact askedFor_chooses invariant chooses

/-- Every handler run that wakes a task up asks for it. -/
theorem woken_askedFor {action : Action} (invariant : Invariant live s)
    (legal : s.Legal live action) (member : Event.selected task time true ∈ (s.step action).trace) :
    (s.step action).AskedFor task := by
  have good := invariant.of_record [] s.requested s.taken
  have effect := step_effect invariant legal
  generalize s.liveAfter live action = live', s.step action = s' at effect member ⊢
  cases effect with
  | idle => exact absurd member List.not_mem_nil
  | yield _ now => exact woken_chooses good rfl (yield_chooses _ now) member
  | createTask stackptr args now room =>
    rw [(createTask_fields _ args.createTask args.itemsAsTasks).2.2.2.2.2] at member
    exact absurd member List.not_mem_nil
  | sleepUntil stackptr args now alive notSpin =>
    have postponed := invariant_postpone args.milliseconds args.itemsAsTasks good alive notSpin
    have quiet := (postpone_fields { s with trace := [] } s.running args.milliseconds
      args.itemsAsTasks).2.2.2.2.2.1
    exact woken_chooses postponed quiet (yield_chooses _ now) member
  | kill _ victim now alive notSpin => exact woken_chooses good rfl (kill_chooses _ _ now) member
  | takePendsv => exact absurd member List.not_mem_nil
  | pendsv stackptr now now' => exact absurd member (not_selected_pendsv rfl)

/-! ## Waiting for the switch -/

/-- A switch to the task is under way. -/
def Waiting (s : Scheduler) (task : Pid) : Prop :=
  s.queued = task ∧ (s.requested = true ∨ s.taken = true)

/-- The handler run decides nothing else: a SysTick does not reschedule, or its
turn of the ring brings up the task. -/
def Undisturbed (s : Scheduler) (task : Pid) : Action → Prop
  | .systick _ now now' now'' => s.RescheduleRequired now now' →
    (∀ first ∈ s.sleepers.head?, ¬ s.IsDue now'' first) ∧ s.ring[1]? = some task
  | _ => True

/-- The step lemma. -/
theorem waiting_step {mask : InterruptMask} {action : Action} (waiting : s.Waiting task)
    (invariant : Invariant live s) (mayTake : s.MayTake mask action) (before : ¬ action.Switches)
    (undisturbed : s.Undisturbed task action) : (s.step action).Waiting task := by
  obtain ⟨queued, underWay⟩ := waiting
  cases action with
  | svc stackptr number args now =>
    -- No system call is taken while a switch is under way.
    obtain ⟨-, notRequested, notTaken⟩ := mayTake
    simp [notRequested, notTaken] at underWay
  | systick stackptr now now' now'' =>
    have good := invariant.of_record [] s.requested s.taken
    change (Scheduler.systick _ now now' now'').Waiting task
    unfold systick
    split_ifs with required
    · obtain ⟨idle, second⟩ := undisturbed required
      have chosen : ({ s with trace := [] } : Scheduler).choice now'' = task :=
        choice_second (due_eq_none.mpr idle) second
      obtain ⟨-, -, slot, requested, taken, -⟩ := yield_fields { s with trace := [] } now''
      constructor
      · rw [slot, good.pid (choice_live now'' good), chosen]
      · rw [requested, taken]
        simp only [Bool.or_eq_true]
        cases underWay with
        | inl requested => exact .inl (.inl requested)
        | inr taken => exact .inr taken
    · exact ⟨queued, underWay⟩
  | takePendsv => exact ⟨queued, .inr rfl⟩
  | pendsv stackptr now now' => exact absurd trivial before

/-- PendSV serves the task that waits, or leaves it running. -/
theorem waiting_pendsv (stackptr : Word) (waiting : s.Waiting task) (invariant : Invariant live s) :
    (s.step (.pendsv stackptr now now')).running = task ∧
      (s.running ≠ task → (s.step (.pendsv stackptr now now')).trace = [.dispatched task]) := by
  have queued : s.queued = task := waiting.1
  have running := invariant.numbered.pids _ invariant.numbered.running
  have slot := invariant.numbered.pids _ invariant.numbered.queued
  change (Scheduler.pendsv _ stackptr now now').running = task ∧
    (_ → (Scheduler.pendsv _ stackptr now now').trace = _)
  unfold pendsv
  split_ifs with same
  · have stays : s.running = task := (running.symm.trans (Eq.symm same)).trans queued
    exact ⟨stays, fun different => absurd stays different⟩
  · have next : s.pid s.queued = task := slot.trans queued
    refine ⟨next, ?_⟩
    intro different
    change [] ++ [Event.dispatched (s.pid s.queued)] = _
    rw [next]
    rfl

end Scheduler

section Kernel

variable [PicoSdk]

/-- A SysTick does not reschedule, or finds no task due and this one second in
the unscheduled queue. -/
def System.Undisturbed (task : Pid) (system : System) : Action → Prop
  | .systick _ now now' now'' => system.kernel.RescheduleRequired now now' →
    (∀ first ∈ system.kernel.scheduled.head?, ¬ system.kernel.IsDue now'' first) ∧
      system.kernel.unscheduled[1]? = some task
  | _ => True

variable [Malloc]

/-- Steps before the next PendSV has run its handler. -/
def System.BeforeSwitch (system : System) (action : Action) : Prop :=
  system.Permitted action ∧ ¬ action.Switches

/-- The task runs and keeps the core, or whatever happens before the next PendSV,
that PendSV is on its way and switches to the task, if it is not running
already. -/
def System.Serves (beforeSwitch : System → Action → Prop) (task : Pid) (system : System) : Prop :=
  (system.kernel.running = task ∧ system.kernel.pendsvPending = false ∧
    system.kernel.pendsvActive = false) ∨
  ∀ before : System, Relation.ReflTransGen (System.Step beforeSwitch) system before →
    (before.kernel.pendsvPending = true ∨ before.kernel.pendsvActive = true) ∧
    ∀ stackptr now now', before.Permitted (.pendsv stackptr now now') →
      ∃ final, before.step (.pendsv stackptr now now') = some final ∧
        final.kernel.running = task ∧
        (before.kernel.running ≠ task → final.kernel.trace = [.dispatched task])

end Kernel

section Runs

variable [PicoSdk] [Malloc] {mask : InterruptMask} {system : System} {s : Scheduler} {task : Pid}

/-- The run lemma: without a disturbance the task stays in the slot. -/
theorem waiting_run {before : System} (good : Good mask system s) (waiting : s.Waiting task)
    (run : Relation.ReflTransGen (System.Step fun system action =>
      system.BeforeSwitch action ∧ system.Undisturbed task action) system before) :
    ∃ mask s, Good mask before s ∧ s.Waiting task := by
  apply run_induction (fun _ _ s => s.Waiting task) _ _ good waiting run
  · exact fun system action allowed => allowed.1.1.1
  · rintro mask system s action good ⟨⟨permitted, beforeSwitch⟩, undisturbed⟩ waiting
    have mayTake := ((permitted_iff good).mp permitted).2
    apply Scheduler.waiting_step waiting good.invariant mayTake beforeSwitch
    obtain ⟨⟨sound, rfl, free, enabled, log⟩, invariant⟩ := good
    cases action with
    | svc stackptr number args now => trivial
    | systick stackptr now now' now'' => exact undisturbed
    | takePendsv => trivial
    | pendsv stackptr now now' => trivial

/-- The switch goes to the task that waits. -/
theorem switch_serves {stackptr : Word} {now now' : AbsoluteTime} (good : Good mask system s)
    (waiting : s.Waiting task) :
    ∃ final, system.step (.pendsv stackptr now now') = some final ∧ final.kernel.running = task ∧
      (system.kernel.running ≠ task → final.kernel.trace = [.dispatched task]) := by
  have legal : system.Legal (.pendsv stackptr now now') := trivial
  obtain ⟨final, stepped, good', -⟩ := step_simulates good legal
  have running : system.kernel.running = s.running := good.running
  have switched : final.kernel.running = _ := good'.running
  have record : final.kernel.trace = _ := good'.trace
  obtain ⟨serves, dispatches⟩ := Scheduler.waiting_pendsv stackptr waiting good.invariant
  refine ⟨final, stepped, switched.trans serves, ?_⟩
  intro different
  exact record.trans (dispatches (running ▸ different))

/-- A handler run that wakes a task up leaves it running or waiting. -/
theorem woken_waiting {action : Action} {woken : System} {time : AbsoluteTime}
    (good : Good mask system s) (legal : system.Legal action)
    (stepped : system.step action = some woken)
    (wakes : Event.selected task time true ∈ woken.kernel.trace) :
    ∃ mask s, Good mask woken s ∧
      (s.running = task ∧ s.requested = false ∧ s.taken = false ∨ s.Waiting task) := by
  obtain ⟨woken', stepped', good', -⟩ := step_simulates good legal
  obtain rfl : woken = woken' := Option.some.inj (stepped.symm.trans stepped')
  have record : woken.kernel.trace = _ := good'.trace
  rw [record] at wakes
  obtain ⟨queued, requested⟩ := Scheduler.woken_askedFor good.invariant ((legal_iff good).mp legal) wakes
  refine ⟨_, _, good', ?_⟩
  by_cases underWay : (s.step action).requested = true ∨ (s.step action).taken = true
  · exact .inr ⟨queued, underWay⟩
  · simp only [not_or, Bool.not_eq_true] at underWay
    refine .inl ⟨?_, underWay⟩
    by_contra different
    exact absurd (requested different) (by simp [underWay.1])

end Runs

theorem due_wake_up_served [PicoSdk] [Malloc] (system : System)
    (reachable : system.Reachable System.Permitted) (action : Action)
    (permitted : system.Permitted action) (woken : System)
    (stepped : system.step action = some woken) (task : Pid) (time : AbsoluteTime)
    (wakes : Event.selected task time true ∈ woken.kernel.trace) :
    woken.Serves (fun system action => system.BeforeSwitch action ∧ system.Undisturbed task action)
      task := by
  obtain ⟨mask, s, good⟩ := reachable_good (reachable.imp fun _ _ permitted => permitted.1)
  obtain ⟨mask', s', good', served⟩ := woken_waiting good permitted.1 stepped wakes
  have shown := good'.outside.shows
  cases served with
  | inl keeps =>
    rw [← shown] at keeps
    exact .inl keeps
  | inr waiting =>
    right
    intro before run
    obtain ⟨mask'', s'', good'', waiting'⟩ := waiting_run good' waiting run
    constructor
    · have underWay := waiting'.2
      rw [← good''.outside.shows] at underWay
      exact underWay
    · exact fun stackptr now now' _ => switch_serves good'' waiting'

section Example

attribute [local instance] PicoSdk.reference Malloc.reference

/-- The last of two tasks has slept while the spin task ran for 9 milliseconds. -/
private def sleptRun : List Action := [
  .svc 0 syscallYield .zero 100, .takePendsv, .pendsv 0 101 102,
  .svc 0 syscallSleepUntil { SyscallArgs.zero with milliseconds := 10000 } 200,
  .takePendsv, .pendsv 0 201 202]

private def slept : Option (InterruptMask × Finset Pid × Scheduler) :=
  Scheduler.run Scheduler.Permitted sleptRun
    (false, atStart 0 0 (List.replicate 2 SyscallArgs.zero.createTask) 0)

private theorem slept_isSome : slept.isSome := by decide +kernel

/-- The spin task yields, and the sleeper is due. -/
private def wake : Action := .svc 0 syscallYield .zero 9500

theorem due_wake_up_served_example : ∃ system woken : System,
    system.Reachable System.Permitted ∧ system.step wake = some woken ∧
      Event.selected 3 9500 true ∈ woken.kernel.trace ∧
      woken.Serves (fun system action => system.BeforeSwitch action ∧ system.Undisturbed 3 action) 3 := by
  obtain ⟨system, reached, good, live⟩ := reachedBy_of_run _ 0 0 _ 0 permitted_mirrors (by decide)
    (Option.some_get slept_isSome).symm
  have permitted : system.Permitted wake := by
    rw [permitted_iff good, live]
    decide +kernel
  obtain ⟨woken, stepped, good', -⟩ := step_simulates good permitted.1
  have wakes : Event.selected 3 9500 true ∈ woken.kernel.trace := by
    rw [good'.trace]
    decide +kernel
  exact ⟨system, woken, reached.reachable, stepped, wakes,
    due_wake_up_served system reached.reachable wake permitted woken stepped 3 9500 wakes⟩

/-- A SysTick finds that the spin task has run for long enough. -/
private def disturbance : List Action := [.systick 0 9501 9501 9501, .takePendsv]

private def beforeSwitch (mask : InterruptMask) (live : Finset Pid) (s : Scheduler)
    (action : Action) : Prop :=
  Scheduler.Permitted mask live s action ∧ ¬ action.Switches

private instance (mask : InterruptMask) (live : Finset Pid) (s : Scheduler) (action : Action) :
    Decidable (beforeSwitch mask live s action) :=
  inferInstanceAs (Decidable (_ ∧ _))

private theorem beforeSwitch_mirrors (mask : InterruptMask) (system : System) (s : Scheduler)
    (action : Action) (good : Good mask system s)
    (allowed : beforeSwitch mask system.live s action) :
    system.BeforeSwitch action ∧ system.Legal action := by
  obtain ⟨permitted, legal⟩ := permitted_mirrors mask system s action good allowed.1
  exact ⟨⟨permitted, allowed.2⟩, legal⟩

private def wokenUp : InterruptMask × Finset Pid × Scheduler :=
  let (mask, live, s) := slept.get slept_isSome
  (s.maskAfter mask wake, s.liveAfter live wake, s.step wake)

private theorem wokenUp_eq : wokenUp =
    ((slept.get slept_isSome).2.2.maskAfter (slept.get slept_isSome).1 wake,
      (slept.get slept_isSome).2.2.liveAfter (slept.get slept_isSome).2.1 wake,
      (slept.get slept_isSome).2.2.step wake) := by
  unfold wokenUp
  generalize slept.get slept_isSome = reached
  obtain ⟨mask, live, s⟩ := reached
  rfl

private def disturbed : Option (InterruptMask × Finset Pid × Scheduler) :=
  Scheduler.run beforeSwitch disturbance wokenUp

private theorem disturbed_isSome : disturbed.isSome := by decide +kernel

/-- The SysTick puts the other task into the slot, and PendSV switches to that
one. -/
theorem wake_up_dropped : ∃ (system woken : System) (action : Action) (task : Pid)
    (time : AbsoluteTime) (actions : List Action),
    system.ReachedBy System.Permitted actions ∧ (∀ action ∈ actions, ¬ action.Kills) ∧
      system.Permitted action ∧ ¬ action.Kills ∧ system.step action = some woken ∧
      Event.selected task time true ∈ woken.kernel.trace ∧
      ¬ woken.Serves System.BeforeSwitch task := by
  obtain ⟨system, reached, good, live⟩ := reachedBy_of_run _ 0 0 _ 0 permitted_mirrors (by decide)
    (Option.some_get slept_isSome).symm
  have permitted : system.Permitted wake := by
    rw [permitted_iff good, live]
    decide +kernel
  obtain ⟨woken, stepped, good', live'⟩ := step_simulates good permitted.1
  have wakes : Event.selected 3 9500 true ∈ woken.kernel.trace := by
    rw [good'.trace]
    decide +kernel
  refine ⟨system, woken, wake, 3, 9500, sleptRun, reached, by decide, permitted, by decide, stepped,
    wakes, ?_⟩
  have ran : Scheduler.run beforeSwitch disturbance
      ((slept.get slept_isSome).2.2.maskAfter (slept.get slept_isSome).1 wake, woken.live,
        (slept.get slept_isSome).2.2.step wake) = some (disturbed.get disturbed_isSome) := by
    rw [live', live, ← wokenUp_eq]
    exact (Option.some_get disturbed_isSome).symm
  obtain ⟨before, run, good'', -⟩ := run_simulates beforeSwitch_mirrors good' ran
  intro serves
  cases serves with
  | inl keeps =>
    have running := keeps.1
    rw [good'.running] at running
    revert running
    decide +kernel
  | inr switches =>
    have active : before.Permitted (.pendsv 0 9502 9502) := by
      rw [permitted_iff good'']
      exact ⟨trivial, by decide +kernel⟩
    obtain ⟨final, stepped', running, -⟩ := (switches before run.steps).2 0 9502 9502 active
    obtain ⟨other, stepped'', switched, -⟩ := step_simulates good'' active.1
    obtain rfl : final = other := Option.some.inj (stepped'.symm.trans stepped'')
    rw [switched.running] at running
    revert running
    decide +kernel

end Example

end Gkrtos
