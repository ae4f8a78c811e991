import Gkrtos.RoundRobin
import Gkrtos.Runs
import Gkrtos.TaskCreation

/-! The unscheduled queue takes turns. Yielding and the SysTick handler turn it, a
new task lines up behind its head, and a task that is woken up goes to its end. As
long as nobody leaves the queue, every task in it has one turn between two turns of
another one. -/
namespace Gkrtos
open KernelRefinement RoundRobin Stateful

/-- The tasks that were chosen by turning the queue, in order. -/
def turnsOf (trace : List Event) : List Pid :=
  trace.filterMap fun
    | .selected task _ false => some task
    | _ => none

theorem turnsOf_append (trace trace' : List Event) :
    turnsOf (trace ++ trace') = turnsOf trace ++ turnsOf trace' :=
  List.filterMap_append

/-- Nobody falls asleep or dies: the only system calls are to yield and to create
a task. -/
def Action.KeepsTasks : Action → Prop
  | .svc _ number _ _ => number = syscallYield ∨ number = syscallCreateTask
  | _ => True

instance : DecidablePred Action.KeepsTasks
  | .svc _ _ _ _ => inferInstanceAs (Decidable (_ ∨ _))
  | .systick _ _ _ _ | .takePendsv | .pendsv _ _ _ => inferInstanceAs (Decidable True)

namespace Scheduler

variable {live : Finset Pid} {s : Scheduler} {now : AbsoluteTime} {read : ItemsAsTasks}

/-- A new task is behind the head. -/
theorem createTask_run [PicoSdk] {args : CreateTaskArgs} (invariant : Invariant live s) :
    Run s.ring [] (s.createTask args read).ring := by
  have numbered := invariant.numbered
  have ring : (s.createTask args read).ring = (Change.join s.maxPid).apply s.ring := by
    rw [createTask, enqueue_awake (newborn_awake numbered)]
    show ListRefinement.insertSecond s.maxPid s.ring = _
    cases s.ring with
    | nil => rfl
    | cons first rest => rfl
  have absent : s.maxPid ∉ s.ring := by
    intro member
    have alive := (invariant.placed.mem_ring.mp member).1
    exact Nat.lt_irrefl _ (numbered.created _ alive)
  rw [ring]
  exact .single (.join s.maxPid) absent

variable [PicoSdk]

/-- The queue is turned, or a task that is due goes to its end. -/
theorem yield_run (invariant : Invariant live s) (quiet : s.trace = []) :
    Run s.ring (turnsOf (s.yield now).trace) (s.yield now).ring := by
  obtain ⟨-, -, -, -, -, -, -, ring, -, -, trace⟩ := yield_fields s now
  rw [ring, trace, quiet, List.nil_append]
  cases due : s.due now with
  | some first =>
    have absent : first ∉ s.ring := by
      intro member
      have awake := (invariant.placed.mem_ring.mp member).2
      have asleep := List.mem_of_head? (due_eq_some.mp due).1
      exact (invariant.placed.mem_sleepers.mp asleep).2 awake
    rw [select_due due]
    exact .single (.comeBack first) absent
  | none =>
    have spins := invariant.spin_mem_ring
    have turn : turnsOf [.selected (s.choice now) now false] = Change.turn.next s.ring := by
      rw [choice_idle due]
      rcases turned : s.ring.rotate 1 with _ | ⟨first, rest⟩
      · have nobody : s.ring = [] := List.rotate_eq_nil_iff.mp turned
        rw [nobody] at spins
        exact absurd spins List.not_mem_nil
      · simp [turnsOf, Change.next, turned]
    rw [select_idle due]
    show Run s.ring (turnsOf [.selected (s.choice now) now false]) _
    rw [turn]
    exact .single .turn trivial

/-- The step lemma. -/
theorem step_turns {action : Action} (invariant : Invariant live s) (keeps : action.KeepsTasks) :
    Run s.ring (turnsOf (s.step action).trace) (s.step action).ring := by
  have good := invariant.of_record [] s.requested s.taken
  cases action with
  | svc stackptr number args now =>
    obtain (rfl | rfl) := keeps
    · exact yield_run good rfl
    · have quiet : (s.step (.svc stackptr syscallCreateTask args now)).trace = [] :=
        (createTask_fields _ args.createTask args.itemsAsTasks).2.2.2.2.2
      rw [quiet]
      exact createTask_run good
  | systick stackptr now now' now'' =>
    show Run s.ring (turnsOf (Scheduler.systick _ now now' now'').trace)
      (Scheduler.systick _ now now' now'').ring
    unfold systick
    split_ifs
    · exact yield_run good rfl
    · exact .refl s.ring
  | takePendsv => exact .refl s.ring
  | pendsv stackptr now now' =>
    show Run s.ring (turnsOf (Scheduler.pendsv _ stackptr now now').trace)
      (Scheduler.pendsv _ stackptr now now').ring
    unfold pendsv
    split_ifs
    · exact .refl s.ring
    · exact .refl s.ring

theorem yield_turned {task : Pid} {time : AbsoluteTime} (invariant : Invariant live s)
    (quiet : s.trace = []) (turn : Event.selected task time false ∈ (s.yield now).trace) :
    (s.yield now).ring = s.ring.rotate 1 ∧ (s.ring.rotate 1).head? = some task := by
  obtain ⟨-, -, -, -, -, -, -, ring, -, -, trace⟩ := yield_fields s now
  rw [trace, quiet, List.nil_append, List.mem_singleton, Event.selected.injEq] at turn
  obtain ⟨chosen, -, notWoken⟩ := turn
  have idle : s.due now = none := by
    cases due : s.due now with
    | none => rfl
    | some first => simp [due] at notWoken
  rw [ring, select_idle idle]
  refine ⟨rfl, ?_⟩
  rw [chosen, choice_idle idle]
  rcases turned : s.ring.rotate 1 with _ | ⟨first, rest⟩
  · have spins := invariant.spin_mem_ring
    rw [List.rotate_eq_nil_iff.mp turned] at spins
    exact absurd spins List.not_mem_nil
  · rfl

/-- A step in which a task has its turn. -/
theorem step_turned {action : Action} {task : Pid} {time : AbsoluteTime}
    (invariant : Invariant live s) (keeps : action.KeepsTasks)
    (turn : Event.selected task time false ∈ (s.step action).trace) :
    (s.step action).ring = s.ring.rotate 1 ∧ (s.ring.rotate 1).head? = some task := by
  have good := invariant.of_record [] s.requested s.taken
  cases action with
  | svc stackptr number args now =>
    obtain (rfl | rfl) := keeps
    · exact yield_turned good rfl turn
    · have quiet : (s.step (.svc stackptr syscallCreateTask args now)).trace = [] :=
        (createTask_fields _ args.createTask args.itemsAsTasks).2.2.2.2.2
      rw [quiet] at turn
      exact absurd turn List.not_mem_nil
  | systick stackptr now now' now'' =>
    change Event.selected task time false ∈ (Scheduler.systick _ now now' now'').trace at turn
    show (Scheduler.systick _ now now' now'').ring = _ ∧ _
    unfold systick at turn ⊢
    split_ifs at turn ⊢
    · exact yield_turned good rfl turn
    · exact absurd turn List.not_mem_nil
  | takePendsv => exact absurd turn List.not_mem_nil
  | pendsv stackptr now now' => exact absurd turn (not_selected_pendsv rfl)

end Scheduler

section Runs

variable [PicoSdk] [Malloc] {mask : InterruptMask} {system final : System} {s : Scheduler}
variable {action : Action} {events : List Event}

/-- The events of a run in which nobody leaves the queue, in order. -/
inductive System.Records : System → List Event → System → Prop
  | refl (system : System) : Records system [] system
  | step {system between final : System} {events : List Event} {action : Action}
    (before : Records system events between) (keeps : action.KeepsTasks)
    (stepped : between.step action = some final) :
    Records system (events ++ final.kernel.trace) final

/-- A creation that returns had a pid to give. -/
theorem legal_of_step (keeps : action.KeepsTasks) (stepped : system.step action = some final) :
    system.Legal action := by
  cases action with
  | svc stackptr number args now =>
    obtain (rfl | rfl) := keeps
    · exact .inl rfl
    · obtain ⟨result, run, -⟩ := System.step_ok stepped
      obtain ⟨current, between, found, called⟩ := bind_ok.mp run
      cases (found : EStateM.Result.ok system.kernel.running system.kernel.unrecorded = _)
      obtain ⟨value, after, create, -⟩ := bind_ok.mp called
      have new : internalSyscallCreateTask args.createTask args.itemsAsTasks
          system.kernel.unrecorded = .ok value after := create
      obtain ⟨index, _, new, -⟩ := bind_ok.mp new
      have inside := (taskingTaskNew_ok new).1
      rw [TaskCreation.taskNew_counts new] at inside
      exact .inr (.inl ⟨rfl, inside⟩)
  | systick stackptr now now' now'' => exact trivial
  | takePendsv => exact trivial
  | pendsv stackptr now now' => exact trivial

/-- What the scheduler does in a step that was taken. -/
theorem keeps_simulates (good : Good mask system s) (keeps : action.KeepsTasks)
    (stepped : system.step action = some final) :
    Good (s.maskAfter mask action) final (s.step action) ∧
      final.kernel.trace = (s.step action).trace := by
  obtain ⟨other, stepped', good', -⟩ := step_simulates good (legal_of_step keeps stepped)
  obtain rfl : final = other := Option.some.inj (stepped.symm.trans stepped')
  exact ⟨good', good'.trace⟩

/-- The run lemma. -/
theorem records_turns (good : Good mask system s) (run : system.Records events final) :
    ∃ mask s', Good mask final s' ∧ Run s.ring (turnsOf events) s'.ring := by
  induction run with
  | refl => exact ⟨mask, s, good, .refl s.ring⟩
  | @step between final events action before keeps stepped ih =>
    obtain ⟨mask', s', good', turns⟩ := ih
    obtain ⟨good'', trace⟩ := keeps_simulates good' keeps stepped
    refine ⟨_, _, good'', ?_⟩
    rw [turnsOf_append, trace]
    exact turns.trans (Scheduler.step_turns good'.invariant keeps)

/-- The run begins when `task` is chosen in its turn and ends when it is chosen so
again; all the others in the queue have been chosen in between. -/
theorem round_robin {start chosen last : System} {first second : Action} {task : Pid}
    {time time' : AbsoluteTime} (reachable : start.Reachable System.Legal)
    (keepsFirst : first.KeepsTasks) (chooses : start.step first = some chosen)
    (turn : Event.selected task time false ∈ chosen.kernel.trace)
    (run : chosen.Records events last)
    (keepsSecond : second.KeepsTasks) (choosesAgain : last.step second = some final)
    (turnAgain : Event.selected task time' false ∈ final.kernel.trace)
    (consecutive : task ∉ turnsOf events) :
    ∀ other ∈ start.kernel.unscheduled, other ≠ task → (turnsOf events).count other = 1 := by
  obtain ⟨mask, s, good⟩ := reachable_good reachable
  have ring : start.kernel.unscheduled = s.ring := good.unscheduled
  obtain ⟨good', trace⟩ := keeps_simulates good keepsFirst chooses
  rw [trace] at turn
  obtain ⟨turned, head⟩ := Scheduler.step_turned good.invariant keepsFirst turn
  obtain ⟨mask', s', good'', turns⟩ := records_turns good' run
  obtain ⟨-, trace'⟩ := keeps_simulates good'' keepsSecond choosesAgain
  rw [trace'] at turnAgain
  obtain ⟨-, again⟩ := Scheduler.step_turned good''.invariant keepsSecond turnAgain
  obtain ⟨others, shape⟩ : ∃ others, s.ring.rotate 1 = task :: others := by
    rcases shape : s.ring.rotate 1 with _ | ⟨first, others⟩
    · simp [shape] at head
    · rw [shape] at head
      obtain rfl : first = task := Option.some.inj head
      exact ⟨others, rfl⟩
  have distinct : (task :: others).Nodup := by
    rw [← shape, List.nodup_rotate]
    exact good.invariant.placed.ring_nodup
  rw [turned, shape] at turns
  intro other member different
  have queued : other ∈ task :: others := by
    rw [← shape, List.mem_rotate, ← ring]
    exact member
  exact turn_once distinct turns consecutive again other
    ((List.mem_cons.mp queued).resolve_left different)

end Runs

section Example

attribute [local instance] PicoSdk.reference Malloc.reference

private def keepsLegal (_ : InterruptMask) (live : Finset Pid) (s : Scheduler) (action : Action) :
    Prop :=
  s.Legal live action ∧ action.KeepsTasks

private instance (mask : InterruptMask) (live : Finset Pid) (s : Scheduler) (action : Action) :
    Decidable (keepsLegal mask live s action) :=
  inferInstanceAs (Decidable (_ ∧ _))

/-- What these steps record. -/
private def recorded : List Action → Scheduler → List Event
  | [], _ => []
  | action :: rest, s => (s.step action).trace ++ recorded rest (s.step action)

private theorem records_of_run {actions : List Action} {mask : InterruptMask} {start system : System}
    {s : Scheduler} {events : List Event} {state : InterruptMask × Finset Pid × Scheduler}
    (good : Good mask system s) (before : start.Records events system)
    (ran : Scheduler.run keepsLegal actions (mask, system.live, s) = some state) :
    ∃ final, start.Records (events ++ recorded actions s) final ∧ Good state.1 final state.2.2 := by
  induction actions generalizing mask system s events with
  | nil =>
    obtain rfl : (mask, system.live, s) = state := Option.some.inj ran
    refine ⟨system, ?_, good⟩
    rw [recorded, List.append_nil]
    exact before
  | cons action rest ih =>
    rw [Scheduler.run] at ran
    split_ifs at ran with isAllowed
    obtain ⟨next, stepped, good', live⟩ := step_simulates good ((legal_iff good).mpr isAllowed.1)
    have trace : next.kernel.trace = (s.step action).trace := good'.trace
    rw [← live] at ran
    obtain ⟨final, records, settled⟩ := ih good' (before.step isAllowed.2 stepped) ran
    rw [trace, List.append_assoc] at records
    exact ⟨final, records, settled⟩

private def yieldsAt (now : AbsoluteTime) : Action := .svc 0 syscallYield .zero now

/-- Two turns of the last of two tasks, and what is between them. -/
private def between : List Action :=
  [.takePendsv, .pendsv 0 101 102, yieldsAt 200, .takePendsv, .pendsv 0 201 202, yieldsAt 300,
    .takePendsv, .pendsv 0 301 302]

private def afterFirst : InterruptMask × Finset Pid × Scheduler :=
  let (live, s) := atStart 0 0 (List.replicate 2 SyscallArgs.zero.createTask) 0
  (s.maskAfter false (yieldsAt 100), s.liveAfter live (yieldsAt 100), s.step (yieldsAt 100))

private theorem between_isSome : (Scheduler.run keepsLegal between afterFirst).isSome := by
  decide +kernel

private theorem step_yields {mask : InterruptMask} {system : System} {s : Scheduler}
    (good : Good mask system s) (now : AbsoluteTime) :
    ∃ next, system.step (yieldsAt now) = some next ∧
      Good (s.maskAfter mask (yieldsAt now)) next (s.step (yieldsAt now)) ∧
      next.live = s.liveAfter system.live (yieldsAt now) :=
  step_simulates good (.inl rfl : system.Legal (.svc 0 syscallYield .zero now))

theorem round_robin_example : ∃ start chosen last final : System, ∃ events,
    start.Reachable System.Legal ∧ start.step (yieldsAt 100) = some chosen ∧
      chosen.Records events last ∧ last.step (yieldsAt 400) = some final ∧
      start.kernel.unscheduled = [1, 3, 2] ∧
      ∀ other ∈ start.kernel.unscheduled, other ≠ 3 → (turnsOf events).count other = 1 := by
  have still : Scheduler.run Scheduler.Permitted []
      (false, atStart 0 0 (List.replicate 2 SyscallArgs.zero.createTask) 0) = some _ := rfl
  obtain ⟨start, reached, good, live⟩ :=
    reachedBy_of_run _ 0 0 _ 0 permitted_mirrors (by decide) still
  have reachable := reached.reachable.imp fun _ _ permitted => permitted.1
  obtain ⟨chosen, chooses, good', live'⟩ := step_yields good 100
  have ran : Scheduler.run keepsLegal between (afterFirst.1, chosen.live, afterFirst.2.2) =
      some ((Scheduler.run keepsLegal between afterFirst).get between_isSome) := by
    rw [live', live]
    exact (Option.some_get between_isSome).symm
  obtain ⟨last, records, good''⟩ := records_of_run good' (.refl chosen) ran
  obtain ⟨final, choosesAgain, good₃, -⟩ := step_yields good'' 400
  have turn : Event.selected 3 100 false ∈ chosen.kernel.trace := by
    rw [good'.trace]
    decide +kernel
  have turnAgain : Event.selected 3 400 false ∈ final.kernel.trace := by
    rw [good₃.trace]
    decide +kernel
  have ring : start.kernel.unscheduled = [1, 3, 2] := by
    rw [good.unscheduled]
    decide +kernel
  have keeps : ∀ now, (yieldsAt now).KeepsTasks := fun now => .inl rfl
  have fair := round_robin reachable (keeps 100) chooses turn records (keeps 400) choosesAgain
    turnAgain (by decide +kernel)
  exact ⟨start, chosen, last, final, _, reachable, chooses, records, choosesAgain, ring, fair⟩

end Example

end Gkrtos
