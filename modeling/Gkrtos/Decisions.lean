import Gkrtos.Runs

/-! What a PendSV handler finds in the slot was written by the last decision before
it, and other handlers may have run in between. A property that depends on which
decision this was is followed with a mark beside the state, which every step sets
from the state before it. -/
namespace Gkrtos
open KernelRefinement

section Decisions

variable [PicoSdk]

/-- `gkrtos_tasking_reschedule_required` returns true at these clock readings. -/
def Kernel.RescheduleRequired (kernel : Kernel) (now now' : AbsoluteTime) : Prop :=
  (PicoSdk.absoluteTimeDiffUs (kernel.taskList kernel.running).accounting.ctxSwitchTime now).toUInt64 >
    taskingTaskElapsedTimeUs ∨ ∃ first ∈ kernel.scheduled.head?, kernel.IsDue now' first

/-- The turn is this task's: it is the due head of the scheduled queue or, with no
task due there, the head of the unscheduled queue after that was rotated. If the
unscheduled queue is empty its head pointer dangles, and is followed all the same. -/
def Kernel.TurnsTo (kernel : Kernel) (task : TaskPtr) (now : AbsoluteTime) : Prop :=
  if ∃ first ∈ kernel.scheduled.head?, kernel.IsDue now first then kernel.scheduled.head? = some task
  else (kernel.unscheduled.rotate 1).headD
    (kernel.lists.data (kernel.lists.header kernel.unscheduledQueue).head) = task

theorem nobodyDue_iff {kernel : Kernel} {now : AbsoluteTime} : (view kernel).due now = none ↔
    ¬ ∃ first ∈ kernel.scheduled.head?, kernel.IsDue now first := by
  rw [Scheduler.due_eq_none, not_exists]
  exact forall_congr' fun first => not_and.symm

theorem turnsTo_iff {kernel : Kernel} {task : TaskPtr} {now : AbsoluteTime}
    (ready : (view kernel).Choosable now) :
    kernel.TurnsTo task now ↔ (view kernel).choice now = task := by
  cases due : (view kernel).due now with
  | some first =>
    obtain ⟨head, isDue⟩ := Scheduler.due_eq_some.mp due
    have found : kernel.scheduled.head? = some first := head
    rw [Kernel.TurnsTo, if_pos ⟨first, found, isDue⟩, Scheduler.choice_due due, found, Option.some.injEq]
  | none =>
    have nonempty : kernel.unscheduled.rotate 1 ≠ [] := by
      rw [Ne, List.rotate_eq_nil_iff]
      exact ready due
    rw [Kernel.TurnsTo, if_neg (nobodyDue_iff.mp due), Scheduler.choice_idle due]
    obtain ⟨first, rest, shape⟩ := List.exists_cons_of_ne_nil nonempty
    have ring : (view kernel).ring.rotate 1 = first :: rest := shape
    rw [shape, ring]
    rfl

theorem turnsTo_choice {mask : InterruptMask} {system : System} {s : Scheduler} {task : TaskPtr}
    {now : AbsoluteTime} (good : Good mask system s) :
    system.kernel.TurnsTo task now ↔ s.choice now = task := by
  have ring := List.ne_nil_of_mem good.invariant.spin_mem_ring
  rw [← good.outside.shows] at ring ⊢
  exact turnsTo_iff fun _ => ring

/-- It is the turn of the task that `gkrtos_internal_tasking_get_next_task` returns. -/
theorem getNextTask_turnsTo [Malloc] {mask : InterruptMask} {kernel kernel' : Kernel}
    {task next : TaskPtr} {now : AbsoluteTime} (outside : Outside mask kernel (view kernel))
    (inTable : ∀ first ∈ kernel.scheduled, first < configMaxTasks)
    (run : internalTaskingGetNextTask now kernel = .ok next kernel') :
    kernel.TurnsTo task now ↔ next = task := by
  by_cases choosable : (view kernel).Choosable now
  · obtain ⟨_, run', -⟩ := getNextTask_simulates now kernel _ outside ⟨choosable, inTable⟩
    cases run.symm.trans run'
    exact turnsTo_iff choosable
  · obtain ⟨nothing, nobody⟩ : (view kernel).due now = none ∧ (view kernel).ring = [] := by
      simpa [Scheduler.Choosable] using choosable
    have empty : kernel.unscheduled = [] := nobody
    rw [getNextTask_dangling outside inTable nothing nobody run, Kernel.TurnsTo,
      if_neg (nobodyDue_iff.mp nothing), empty]
    rfl

end Decisions

section Runs

variable [PicoSdk] [Malloc]

/-- Each state this step can lead to has the property. -/
def System.LeadsTo (holds : System → Prop) (system : System) (action : Action) : Prop :=
  ∀ next, system.step action = some next → holds next

/-- No PendSV handler of the run comes while the mark is set. A step says how it is
set afterwards, from the state before the step. -/
def System.Averts (mark : System → Prop → Action → Prop) : Prop → List Action → System → Prop
  | _, [], _ => True
  | marked, action :: rest, system => (marked → ¬ action.Switches) ∧
      ∀ next, system.step action = some next →
        System.Averts mark (mark system marked action) rest next

variable {mark : System → Prop → Action → Prop} {actions : List Action} {system final : System}

/-- A run in which the mark is not set, and what comes after. -/
theorem averts_append {rest : List Action}
    (run : System.Runs (fun system action => ¬ mark system False action) actions system final)
    (averts : System.Averts mark False rest final) :
    System.Averts mark False (actions ++ rest) system := by
  induction actions generalizing system with
  | nil =>
    obtain rfl : system = final := run
    exact averts
  | cons action actions ih =>
    obtain ⟨unmarked, next, stepped, run⟩ := run
    refine ⟨False.elim, ?_⟩
    intro next' stepped'
    obtain rfl : next = next' := Option.some.inj (stepped.symm.trans stepped')
    rw [eq_false unmarked]
    exact ih run

/-- The run lemma: steps that keep a property unless they are a marked PendSV, and
keep the mark right while they keep the property, keep the property in just the runs
without a marked PendSV. -/
theorem runs_iff_averts (fits : Prop → System → Prop) {marked : Prop}
    {allowed keeps : System → Action → Prop}
    (step : ∀ marked system action next, fits marked system → allowed system action →
      system.step action = some next → (keeps system action ↔ (marked → ¬ action.Switches)) ∧
        (keeps system action → fits (mark system marked action) next))
    (start : fits marked system) (run : System.Runs allowed actions system final) :
    System.Runs keeps actions system final ↔ System.Averts mark marked actions system := by
  induction actions generalizing marked system with
  | nil => exact iff_of_true run trivial
  | cons action rest ih =>
    obtain ⟨isAllowed, next, stepped, run⟩ := run
    obtain ⟨unmarked, after⟩ := step marked system action next start isAllowed stepped
    constructor
    · rintro ⟨kept, next', stepped', runs⟩
      obtain rfl : next = next' := Option.some.inj (stepped.symm.trans stepped')
      refine ⟨unmarked.mp kept, ?_⟩
      intro next' stepped'
      obtain rfl : next = next' := Option.some.inj (stepped.symm.trans stepped')
      exact (ih (after kept) run).mp runs
    · rintro ⟨averted, averts⟩
      have kept := unmarked.mpr averted
      exact ⟨kept, next, stepped, (ih (after kept) run).mpr (averts next stepped)⟩

end Runs

end Gkrtos
