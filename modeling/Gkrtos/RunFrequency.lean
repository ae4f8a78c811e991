import Mathlib.Algebra.Order.Field.Rat
import Mathlib.Tactic.FieldSimp
import Mathlib.Tactic.Linarith
import Mathlib.Tactic.Ring
import Gkrtos.TaskRunner

/-! How well `gkrtos_internal_task_runner` keeps the frequency of a task. Its loop adds
the period in whole microseconds to the time of the next run. What the division
leaves over is lost in every round, and the losses add up: a frequency that does not
divide a million is not kept in the long run. -/
namespace Gkrtos

/-! ## Truncated periods -/

/-- The multiples of a truncated quotient fall behind by the same part of the
remainder each time. -/
theorem multiple_of_truncated (amount rate count : ℕ) (positive : 0 < rate) :
    (count : ℚ) * (amount / rate) =
      (count * (amount / rate) : ℕ) + (count * (amount % rate) : ℕ) / rate := by
  have nonzero : (rate : ℚ) ≠ 0 := Nat.cast_ne_zero.mpr (Nat.ne_of_gt positive)
  have whole : (rate : ℚ) * (amount / rate : ℕ) + (amount % rate : ℕ) = amount := by
    exact_mod_cast Nat.div_add_mod amount rate
  push_cast
  rw [← whole]
  field_simp

/-- They stay within a bound as long as the parts left over do. -/
theorem truncated_within_iff (start amount rate count bound : ℕ) (positive : 0 < rate) :
    |((start + count * (amount / rate) : ℕ) : ℚ) - (start + count * (amount / rate))| < bound ↔
      count * (amount % rate) < bound * rate := by
  have behind : ((start + count * (amount / rate) : ℕ) : ℚ) - (start + count * (amount / rate)) =
      -((count * (amount % rate) : ℕ) / rate) := by
    rw [multiple_of_truncated amount rate count positive]
    push_cast
    ring
  have positive' : (0 : ℚ) < rate := Nat.cast_pos.mpr positive
  have left : (0 : ℚ) ≤ (count * (amount % rate) : ℕ) / rate :=
    div_nonneg (Nat.cast_nonneg _) positive'.le
  rw [behind, abs_neg, abs_of_nonneg left, div_lt_iff₀ positive']
  exact_mod_cast Iff.rfl

/-! ## Release times -/

/-- `next_run`, while the loop runs. -/
def RunnerState.nextRun : RunnerState → Option AbsoluteTime
  | .looping nextRun | .inFunction nextRun | .sleeping nextRun => some nextRun
  | .entered | .inOnlyCall | .dead => none

/-- The release time after so many calls is less than a SysTick period away from the
exact one. -/
def KeepsFrequency (task : Task) (start release : AbsoluteTime) (calls : Nat) : Prop :=
  |(release.toNat : ℚ) - (start.toNat + calls * (1000000 / task.runFrequency.toNat))| < 1000

theorem keepsFrequency_iff {task : Task} {start release : AbsoluteTime} {calls : Nat}
    (least : 1 ≤ task.runFrequency.toNat)
    (computed : release.toNat = start.toNat + calls * (1000000 / task.runFrequency.toNat)) :
    KeepsFrequency task start release calls ↔
      calls * (1000000 % task.runFrequency.toNat) < 1000 * task.runFrequency.toNat := by
  have within := truncated_within_iff start.toNat 1000000 task.runFrequency.toNat calls 1000 least
  rw [← computed] at within
  exact_mod_cast within

section Runner

variable [PicoSdk]

/-- Where the task is after these times. -/
def taskRunnerAfter (task : Task) : RunnerState → List AbsoluteTime → RunnerState
  | state, [] => state
  | state, time :: times => taskRunnerAfter task (taskRunnerStep task time state).1 times

variable {task : Task} {state : RunnerState} {start time nextRun : AbsoluteTime}
variable {times : List AbsoluteTime}

/-- The step lemma: each call of the function of the task moves the next run on by
one period, and nothing else does. -/
theorem taskRunnerStep_nextRun (holds : state.nextRun = some nextRun)
    (unsaturated : nextRun.toNat +
      callsIn (taskRunnerStep task time state).2.toList * (runnerPeriod task).toNat < 2 ^ 63) :
    ∃ nextRun', (taskRunnerStep task time state).1.nextRun = some nextRun' ∧
      nextRun'.toNat = nextRun.toNat +
        callsIn (taskRunnerStep task time state).2.toList * (runnerPeriod task).toNat := by
  have unmoved (target : AbsoluteTime) :
      target.toNat = target.toNat + 0 * (runnerPeriod task).toNat := by
    rw [Nat.zero_mul, Nat.add_zero]
  cases state with
  | entered => cases holds
  | inOnlyCall => cases holds
  | dead => cases holds
  | looping target =>
    obtain rfl : target = nextRun := Option.some.inj holds
    have counted : callsIn (taskRunnerStep task time (.looping target)).2.toList = 1 := rfl
    rw [counted, Nat.one_mul] at unsaturated ⊢
    exact ⟨_, rfl, delayedByUs_toNat unsaturated⟩
  | inFunction target =>
    obtain rfl : target = nextRun := Option.some.inj holds
    by_cases sleep : 0 ≤ PicoSdk.absoluteTimeDiffUs time target
    · have step : taskRunnerStep task time (.inFunction target) =
          (.sleeping target, some (.sleptUntil target time)) := if_pos sleep
      rw [step]
      exact ⟨target, rfl, unmoved target⟩
    · have step : taskRunnerStep task time (.inFunction target) =
          (.looping target, some (.late time)) := if_neg sleep
      rw [step]
      exact ⟨target, rfl, unmoved target⟩
  | sleeping target =>
    obtain rfl : target = nextRun := Option.some.inj holds
    exact ⟨target, rfl, unmoved target⟩

/-- The run lemma. -/
theorem taskRunnerAfter_nextRun (holds : state.nextRun = some nextRun)
    (unsaturated : nextRun.toNat +
      callsIn (taskRunner task state times) * (runnerPeriod task).toNat < 2 ^ 63) :
    ∃ release, (taskRunnerAfter task state times).nextRun = some release ∧
      release.toNat = nextRun.toNat +
        callsIn (taskRunner task state times) * (runnerPeriod task).toNat := by
  induction times generalizing state nextRun with
  | nil => exact ⟨nextRun, holds, by simp [taskRunner, callsIn]⟩
  | cons time times ih =>
    have events : taskRunner task state (time :: times) = (taskRunnerStep task time state).2.toList ++
        taskRunner task (taskRunnerStep task time state).1 times := rfl
    rw [events, callsIn_append, Nat.add_mul, ← Nat.add_assoc] at unsaturated ⊢
    obtain ⟨nextRun', holds', moved⟩ :=
      taskRunnerStep_nextRun holds (Nat.lt_of_le_of_lt (Nat.le_add_right _ _) unsaturated)
    rw [← moved] at unsaturated ⊢
    exact ih holds' unsaturated

theorem calls_entered (least : 1 ≤ task.runFrequency.toNat) (start : AbsoluteTime)
    (times : List AbsoluteTime) : callsIn (taskRunner task .entered (start :: times)) =
      callsIn (taskRunner task (.looping start) times) := by
  rw [taskRunner_entered least]
  rfl

/-- The release times of a task that has entered the loop. -/
theorem release_toNat (least : 1 ≤ task.runFrequency.toNat)
    (unsaturated : start.toNat + callsIn (taskRunner task .entered (start :: times)) *
      (1000000 / task.runFrequency.toNat) < 2 ^ 63) :
    ∃ release, (taskRunnerAfter task .entered (start :: times)).nextRun = some release ∧
      release.toNat = start.toNat + callsIn (taskRunner task .entered (start :: times)) *
        (1000000 / task.runFrequency.toNat) := by
  have after : taskRunnerAfter task .entered (start :: times) =
      taskRunnerAfter task (.looping start) times := by
    rw [taskRunnerAfter, taskRunnerStep_entered least]
  rw [calls_entered least, ← runnerPeriod_toNat] at unsaturated ⊢
  rw [after]
  exact taskRunnerAfter_nextRun rfl unsaturated

/-- The release time after any number of calls, however long they and the sleeps
take. -/
theorem frequency_kept_iff (task : Task) (start : AbsoluteTime) (times : List AbsoluteTime)
    (least : 1 ≤ task.runFrequency.toNat)
    (unsaturated : start.toNat + callsIn (taskRunner task .entered (start :: times)) *
      (1000000 / task.runFrequency.toNat) < 2 ^ 63) :
    ∃ release, (taskRunnerAfter task .entered (start :: times)).nextRun = some release ∧
      (KeepsFrequency task start release (callsIn (taskRunner task .entered (start :: times))) ↔
        callsIn (taskRunner task .entered (start :: times)) *
          (1000000 % task.runFrequency.toNat) < 1000 * task.runFrequency.toNat) := by
  obtain ⟨release, holds, computed⟩ := release_toNat least unsaturated
  exact ⟨release, holds, keepsFrequency_iff least computed⟩

/-! ## In the long run -/

/-- The times of a task whose function takes none and whose sleeps end at their
deadlines. -/
def promptTimes (period : AbsoluteTime) : Nat → AbsoluteTime → List AbsoluteTime
  | 0, _ => []
  | rounds + 1, nextRun => nextRun :: nextRun :: (nextRun + period) ::
      promptTimes period rounds (nextRun + period)

omit [PicoSdk] in
private theorem advanced_toNat {period : AbsoluteTime}
    (unsaturated : nextRun.toNat + period.toNat < 2 ^ 63) :
    (nextRun + period).toNat = nextRun.toNat + period.toNat := by
  rw [UInt64.toNat_add]
  omega

/-- One round of such a task. -/
theorem prompt_round {rounds : Nat}
    (unsaturated : nextRun.toNat + (runnerPeriod task).toNat < 2 ^ 63) :
    taskRunner task (.looping nextRun) (promptTimes (runnerPeriod task) (rounds + 1) nextRun) =
      .called task.function task.pid nextRun ::
      .sleptUntil (nextRun + runnerPeriod task) nextRun ::
      .woken (nextRun + runnerPeriod task) (nextRun + runnerPeriod task) ::
      taskRunner task (.looping (nextRun + runnerPeriod task))
        (promptTimes (runnerPeriod task) rounds (nextRun + runnerPeriod task)) := by
  have target : PicoSdk.delayedByUs nextRun (runnerPeriod task) = nextRun + runnerPeriod task :=
    PicoSdk.delayedByUs_eq nextRun (runnerPeriod task) unsaturated
  have advanced := advanced_toNat unsaturated
  have ahead : 0 ≤ PicoSdk.absoluteTimeDiffUs nextRun (nextRun + runnerPeriod task) := by
    rw [diff_nonneg_iff (by omega) (by omega)]
    omega
  simp [promptTimes, taskRunner, taskRunnerStep, target, ahead]

/-- Its times are in order, its sleeps end in time, and it makes one call in each
round. -/
theorem prompt_times {rounds : Nat}
    (unsaturated : nextRun.toNat + rounds * (runnerPeriod task).toNat < 2 ^ 63) :
    (nextRun :: promptTimes (runnerPeriod task) rounds nextRun).Pairwise (· ≤ ·) ∧
      (∀ event ∈ taskRunner task (.looping nextRun)
        (promptTimes (runnerPeriod task) rounds nextRun), event.EndsInTime) ∧
      callsIn (taskRunner task (.looping nextRun)
        (promptTimes (runnerPeriod task) rounds nextRun)) = rounds := by
  induction rounds generalizing nextRun with
  | zero =>
    refine ⟨List.pairwise_singleton _ _, fun event member => ?_, rfl⟩
    exact absurd member List.not_mem_nil
  | succ rounds ih =>
    rw [Nat.add_mul, Nat.one_mul] at unsaturated
    have first : nextRun.toNat + (runnerPeriod task).toNat < 2 ^ 63 := by omega
    have advanced := advanced_toNat first
    obtain ⟨ordered, sleeps, counted⟩ := @ih (nextRun + runnerPeriod task) (by omega)
    have later : nextRun ≤ nextRun + runnerPeriod task :=
      UInt64.le_iff_toNat_le.mpr (advanced ▸ Nat.le_add_right _ _)
    rw [prompt_round first]
    refine ⟨?_, ?_, ?_⟩
    · have behind : ∀ time ∈ (nextRun + runnerPeriod task) ::
          promptTimes (runnerPeriod task) rounds (nextRun + runnerPeriod task), nextRun ≤ time := by
        intro time member
        cases List.mem_cons.mp member with
        | inl same => exact same ▸ later
        | inr after => exact UInt64.le_trans later ((List.pairwise_cons.mp ordered).1 time after)
      simp only [promptTimes, List.pairwise_cons, List.forall_mem_cons] at ordered behind ⊢
      exact ⟨⟨UInt64.le_refl _, UInt64.le_refl _, behind⟩, ⟨UInt64.le_refl _, behind⟩, behind, ordered⟩
    · intro event member
      simp only [List.mem_cons] at member
      obtain rfl | rfl | rfl | after := member
      · trivial
      · trivial
      · exact Nat.lt_add_of_pos_right (by decide)
      · exact sleeps event after
    · rw [callsIn, List.countP_cons, List.countP_cons, List.countP_cons]
      exact congrArg Nat.succ counted

/-- A frequency is kept for good exactly if it divides a million. -/
theorem frequency_always_kept_iff (least : 1 ≤ task.runFrequency.toNat)
    (early : start.toNat + 1000000000 < 2 ^ 63) :
    (∀ times release, start.toNat + callsIn (taskRunner task .entered (start :: times)) *
        (1000000 / task.runFrequency.toNat) < 2 ^ 63 →
      (taskRunnerAfter task .entered (start :: times)).nextRun = some release →
      KeepsFrequency task start release (callsIn (taskRunner task .entered (start :: times)))) ↔
    task.runFrequency.toNat ∣ 1000000 := by
  constructor
  · intro kept
    by_contra inexact
    have left : 0 < 1000000 % task.runFrequency.toNat :=
      Nat.pos_of_ne_zero fun none => inexact (Nat.dvd_of_mod_eq_zero none)
    -- A thousand seconds are enough for any frequency.
    have second : 1000 * task.runFrequency.toNat * (1000000 / task.runFrequency.toNat) ≤
        1000000000 := by
      rw [Nat.mul_assoc]
      exact Nat.mul_le_mul_left 1000 (Nat.mul_div_le 1000000 task.runFrequency.toNat)
    have unsaturated : start.toNat +
        1000 * task.runFrequency.toNat * (1000000 / task.runFrequency.toNat) < 2 ^ 63 := by
      omega
    obtain ⟨-, -, counted⟩ := prompt_times (runnerPeriod_toNat task ▸ unsaturated)
    have calls := (calls_entered least start _).trans counted
    have bounded := calls.symm ▸ unsaturated
    obtain ⟨release, holds, computed⟩ := release_toNat least bounded
    have within := (keepsFrequency_iff least computed).mp (kept _ release bounded holds)
    rw [calls] at within
    exact Nat.not_lt.mpr (Nat.le_mul_of_pos_right _ left) within
  · intro divides times release unsaturated holds
    obtain ⟨release', holds', computed⟩ := release_toNat least unsaturated
    obtain rfl : release = release' := Option.some.inj (holds.symm.trans holds')
    rw [keepsFrequency_iff least computed, Nat.mod_eq_zero_of_dvd divides, Nat.mul_zero]
    omega

end Runner

section Example

attribute [local instance] PicoSdk.reference

/-- A task that runs 30 times a second. -/
private def thirtyHertz : Task :=
  { Task.zero with pid := 2, function := 0x10000601, runFrequency := 30 }

private theorem thirtyHertz_period : (runnerPeriod thirtyHertz).toNat = 33333 := by decide

/-- What such a task does in so many rounds from time 0 on, if its function takes no
time. -/
private theorem thirtyHertz_rounds (rounds : Nat) (few : rounds ≤ 3000) :
    ∃ times, (0 :: times).Pairwise (· ≤ ·) ∧
      (∀ event ∈ taskRunner thirtyHertz .entered (0 :: times), event.EndsInTime) ∧
      callsIn (taskRunner thirtyHertz .entered (0 :: times)) = rounds ∧
      (0 : AbsoluteTime).toNat + rounds * (1000000 / thirtyHertz.runFrequency.toNat) < 2 ^ 63 := by
  have least : 1 ≤ thirtyHertz.runFrequency.toNat := by decide
  have unsaturated : (0 : AbsoluteTime).toNat + rounds * (runnerPeriod thirtyHertz).toNat < 2 ^ 63 := by
    rw [thirtyHertz_period, show (0 : AbsoluteTime).toNat = 0 from rfl]
    omega
  obtain ⟨ordered, sleeps, counted⟩ := prompt_times unsaturated
  refine ⟨_, ordered, ?_, (calls_entered least 0 _).trans counted, ?_⟩
  · rw [taskRunner_entered least]
    exact List.forall_mem_cons.mpr ⟨trivial, sleeps⟩
  · exact runnerPeriod_toNat thirtyHertz ▸ unsaturated

/-- In one round less than 100 seconds the task has not lost a millisecond. -/
theorem frequency_kept_iff_example : ∃ times release,
    callsIn (taskRunner thirtyHertz .entered (0 :: times)) = 2999 ∧
      (taskRunnerAfter thirtyHertz .entered (0 :: times)).nextRun = some release ∧
      KeepsFrequency thirtyHertz 0 release 2999 := by
  obtain ⟨times, -, -, calls, unsaturated⟩ := thirtyHertz_rounds 2999 (by decide)
  obtain ⟨release, holds, kept⟩ :=
    frequency_kept_iff thirtyHertz 0 times (by decide) (calls.symm ▸ unsaturated)
  rw [calls] at kept
  exact ⟨times, release, calls, holds, kept.mpr (by decide)⟩

/-- After 100 seconds of such rounds it has lost one millisecond. -/
theorem frequency_lost : ∃ times, (0 :: times).Pairwise (· ≤ ·) ∧
    (∀ event ∈ taskRunner thirtyHertz .entered (0 :: times), event.EndsInTime) ∧
    callsIn (taskRunner thirtyHertz .entered (0 :: times)) = 3000 ∧
    (taskRunnerAfter thirtyHertz .entered (0 :: times)).nextRun = some 99999000 ∧
    ¬ KeepsFrequency thirtyHertz 0 99999000 3000 := by
  have least : 1 ≤ thirtyHertz.runFrequency.toNat := by decide
  obtain ⟨times, ordered, sleeps, calls, unsaturated⟩ := thirtyHertz_rounds 3000 (by decide)
  obtain ⟨release, holds, computed⟩ := release_toNat least (calls.symm ▸ unsaturated)
  obtain rfl : release = 99999000 := by
    apply UInt64.toNat_inj.mp
    rw [computed, calls]
    decide
  refine ⟨times, ordered, sleeps, calls, holds, ?_⟩
  rw [keepsFrequency_iff least (by decide)]
  decide

end Example

end Gkrtos
