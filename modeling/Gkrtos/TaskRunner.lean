import Gkrtos.Tasking

/-! `gkrtos_internal_task_runner` of `tasking/runner.c`, in which every task begins.
It is cut where time passes: at the call of the task's function, at the reading of
the clock when the function has returned, and at the return of a system call. How
long each of them takes is left to the outside. A task that runs at a frequency has
an absolute time for its next run, which is carried on over late rounds and over
sleeps that end early. -/
namespace Gkrtos

/-- Where a task is in the function. -/
inductive RunnerState where
  | entered
  /-- At the beginning of the loop. -/
  | looping (nextRun : AbsoluteTime)
  /-- The function of the task has been called. -/
  | inFunction (nextRun : AbsoluteTime)
  /-- `gkrtos_syscall_sleep_until` has been called. -/
  | sleeping (nextRun : AbsoluteTime)
  /-- The function of a task without a frequency has been called. -/
  | inOnlyCall
  | dead
  deriving DecidableEq, Repr

/-- What a task has done at a time. -/
inductive RunnerEvent where
  | began (time : AbsoluteTime)
  | called (function : Word) (pid : Pid) (time : AbsoluteTime)
  /-- The clock is past the next run, so that the task goes on. -/
  | late (checked : AbsoluteTime)
  | sleptUntil (deadline checked : AbsoluteTime)
  | woken (deadline time : AbsoluteTime)
  | died
  deriving DecidableEq, Repr

/-- `1000000 / task->run_frequency` -/
def runnerPeriod (task : Task) : AbsoluteTime :=
  UInt64.ofNat (1000000 / task.runFrequency : Word).toNat

section Runner

variable [PicoSdk]

/-- `gkrtos_internal_task_runner` from one such point to the next, which is reached
at the given time. -/
def taskRunnerStep (task : Task) (time : AbsoluteTime) :
    RunnerState → RunnerState × Option RunnerEvent
  | .entered =>
    if task.runFrequency = 0 then (.inOnlyCall, some (.called task.function task.pid time))
    else (.looping time, some (.began time))
  | .looping nextRun =>
    (.inFunction (PicoSdk.delayedByUs nextRun (runnerPeriod task)),
      some (.called task.function task.pid time))
  | .inFunction nextRun =>
    if 0 ≤ PicoSdk.absoluteTimeDiffUs time nextRun then
      (.sleeping nextRun, some (.sleptUntil nextRun time))
    else (.looping nextRun, some (.late time))
  | .sleeping nextRun => (.looping nextRun, some (.woken nextRun time))
  | .inOnlyCall => (.dead, some .died)
  | .dead => (.dead, none)

/-- What a task does when these are the times. -/
def taskRunner (task : Task) : RunnerState → List AbsoluteTime → List RunnerEvent
  | _, [] => []
  | state, time :: times =>
    let (state', event) := taskRunnerStep task time state
    event.toList ++ taskRunner task state' times

variable {task : Task}

/-- A task with a frequency enters the loop. -/
theorem taskRunnerStep_entered (least : 1 ≤ task.runFrequency.toNat) (start : AbsoluteTime) :
    taskRunnerStep task start .entered = (.looping start, some (.began start)) := by
  have periodic : task.runFrequency ≠ 0 := by
    intro none
    rw [none] at least
    exact absurd least (by decide)
  exact if_neg periodic

theorem taskRunner_entered (least : 1 ≤ task.runFrequency.toNat) (start : AbsoluteTime)
    (times : List AbsoluteTime) : taskRunner task .entered (start :: times) =
      .began start :: taskRunner task (.looping start) times := by
  rw [taskRunner, taskRunnerStep_entered least]
  rfl

end Runner

/-- How often the function of the task was called. -/
def callsIn (events : List RunnerEvent) : Nat :=
  events.countP fun
    | .called _ _ _ => true
    | _ => false

/-! ## Release times -/

theorem runnerPeriod_toNat (task : Task) :
    (runnerPeriod task).toNat = 1000000 / task.runFrequency.toNat := by
  have divided : (1000000 / task.runFrequency : Word).toNat = 1000000 / task.runFrequency.toNat :=
    BitVec.toNat_udiv
  have small : 1000000 / task.runFrequency.toNat ≤ 1000000 := Nat.div_le_self _ _
  rw [runnerPeriod, divided, UInt64.toNat_ofNat']
  exact Nat.mod_eq_of_lt (Nat.lt_of_le_of_lt small (by decide))

theorem callsIn_append (events events' : List RunnerEvent) :
    callsIn (events ++ events') = callsIn events + callsIn events' :=
  List.countP_append

/-- When `calls` calls were made before, the next one is not more than a SysTick
period before its release time, and a sleep is until the next release time. -/
def RunnerEvent.OnTime (began period calls : Nat) : RunnerEvent → Prop
  | .called _ _ time => began + calls * period < time.toNat + 1000
  | .sleptUntil deadline checked => deadline.toNat = began + calls * period ∧ checked ≤ deadline
  | _ => True

/-- A sleep does not end earlier than a SysTick period before its deadline. -/
def RunnerEvent.EndsInTime : RunnerEvent → Prop
  | .woken deadline time => deadline.toNat < time.toNat + 1000
  | _ => True

instance : DecidablePred RunnerEvent.EndsInTime
  | .woken _ _ => inferInstanceAs (Decidable (_ < _))
  | .began _ | .called _ _ _ | .late _ | .sleptUntil _ _ | .died => inferInstanceAs (Decidable True)

/-- The target is the next release time, and at the beginning of the loop it is
not far ahead of the clock. -/
def RunnerState.OnTime (began period calls : Nat) (now : AbsoluteTime) : RunnerState → Prop
  | .looping nextRun =>
    nextRun.toNat = began + calls * period ∧ nextRun.toNat < now.toNat + 1000
  | .inFunction nextRun | .sleeping nextRun =>
    nextRun.toNat = began + calls * period ∧ nextRun.toNat < 2 ^ 63
  | _ => False

section Punctual

variable [PicoSdk] {task : Task} {began calls : Nat} {now time : AbsoluteTime} {state : RunnerState}

/-- The step lemma. -/
theorem taskRunnerStep_onTime (onTime : state.OnTime began (runnerPeriod task).toNat calls now)
    (later : now.toNat ≤ time.toNat) (bounded : time.toNat + (runnerPeriod task).toNat + 1000 < 2 ^ 63)
    (sleeps : ∀ event ∈ (taskRunnerStep task time state).2, event.EndsInTime) :
    (∀ event ∈ (taskRunnerStep task time state).2,
      event.OnTime began (runnerPeriod task).toNat calls) ∧
    (taskRunnerStep task time state).1.OnTime began (runnerPeriod task).toNat
      (calls + callsIn (taskRunnerStep task time state).2.toList) time := by
  cases state with
  | entered => exact absurd onTime id
  | inOnlyCall => exact absurd onTime id
  | dead => exact absurd onTime id
  | looping nextRun =>
    obtain ⟨target, near⟩ := onTime
    have fits : nextRun.toNat + (runnerPeriod task).toNat < 2 ^ 63 := by omega
    have advanced : (PicoSdk.delayedByUs nextRun (runnerPeriod task)).toNat =
        nextRun.toNat + (runnerPeriod task).toNat :=
      delayedByUs_toNat fits
    constructor
    · rintro _ ⟨⟩
      show began + calls * (runnerPeriod task).toNat < time.toNat + 1000
      omega
    · show (PicoSdk.delayedByUs nextRun (runnerPeriod task)).toNat =
          began + (calls + 1) * (runnerPeriod task).toNat ∧ _
      rw [advanced, Nat.succ_mul]
      exact ⟨by omega, fits⟩
  | inFunction nextRun =>
    obtain ⟨target, small⟩ := onTime
    have timeSmall : time.toNat < 2 ^ 63 := by omega
    have ahead := diff_nonneg_iff timeSmall small
    by_cases sleep : 0 ≤ PicoSdk.absoluteTimeDiffUs time nextRun
    · have step : taskRunnerStep task time (.inFunction nextRun) =
          (.sleeping nextRun, some (.sleptUntil nextRun time)) := if_pos sleep
      rw [step]
      constructor
      · rintro _ ⟨⟩
        exact ⟨target, UInt64.le_iff_toNat_le.mpr (ahead.mp sleep)⟩
      · exact ⟨target, small⟩
    · have step : taskRunnerStep task time (.inFunction nextRun) =
          (.looping nextRun, some (.late time)) := if_neg sleep
      have past : nextRun.toNat < time.toNat := Nat.lt_of_not_le fun before => sleep (ahead.mpr before)
      rw [step]
      constructor
      · rintro _ ⟨⟩
        trivial
      · exact ⟨target, Nat.lt_add_right 1000 past⟩
  | sleeping nextRun =>
    have ended : nextRun.toNat < time.toNat + 1000 := sleeps (.woken nextRun time) rfl
    constructor
    · rintro _ ⟨⟩
      trivial
    · exact ⟨onTime.1, ended⟩

variable {times : List AbsoluteTime}

/-- The run lemma. -/
theorem taskRunner_onTime (onTime : state.OnTime began (runnerPeriod task).toNat calls now)
    (ordered : (now :: times).Pairwise (· ≤ ·))
    (bounded : ∀ time ∈ times, time.toNat + (runnerPeriod task).toNat + 1000 < 2 ^ 63)
    (sleeps : ∀ event ∈ taskRunner task state times, event.EndsInTime)
    {before after : List RunnerEvent} {event : RunnerEvent}
    (split : taskRunner task state times = before ++ event :: after) :
    event.OnTime began (runnerPeriod task).toNat (calls + callsIn before) := by
  induction times generalizing state calls now before with
  | nil => simp [taskRunner] at split
  | cons time times ih =>
    obtain ⟨earliest, ordered⟩ := List.pairwise_cons.mp ordered
    have later : now.toNat ≤ time.toNat :=
      UInt64.le_iff_toNat_le.mp (earliest time List.mem_cons_self)
    have events : taskRunner task state (time :: times) = (taskRunnerStep task time state).2.toList ++
        taskRunner task (taskRunnerStep task time state).1 times := rfl
    rw [events] at sleeps split
    obtain ⟨now_onTime, next_onTime⟩ := taskRunnerStep_onTime onTime later
      (bounded time List.mem_cons_self)
      fun event made => sleeps event (List.mem_append_left _ (Option.mem_toList.mpr made))
    have bounded' : ∀ time ∈ times, time.toNat + (runnerPeriod task).toNat + 1000 < 2 ^ 63 :=
      fun later member => bounded later (List.mem_cons_of_mem time member)
    have sleeps' : ∀ event ∈ taskRunner task (taskRunnerStep task time state).1 times,
        event.EndsInTime :=
      fun event member => sleeps event (List.mem_append_right _ member)
    cases made : (taskRunnerStep task time state).2 with
    | none =>
      rw [made] at split next_onTime
      exact ih next_onTime ordered bounded' sleeps' split
    | some first =>
      rw [made] at split next_onTime
      cases before with
      | nil =>
        obtain ⟨rfl, -⟩ := List.cons.inj split
        exact now_onTime first made
      | cons other before =>
        obtain ⟨rfl, tail⟩ := List.cons.inj split
        have counted : callsIn (first :: before) = callsIn [first] + callsIn before :=
          callsIn_append [first] before
        rw [counted, ← Nat.add_assoc]
        exact ih next_onTime ordered bounded' sleeps' tail

/-- The first time is the clock reading at which the runner of a task with a
frequency begins; the others are up to the function of the task and to the
scheduler. -/
theorem runner_punctual {start : AbsoluteTime} {times : List AbsoluteTime} (task : Task)
    (frequency : 1 ≤ task.runFrequency.toNat) (ordered : (start :: times).Pairwise (· ≤ ·))
    (bounded : ∀ time ∈ start :: times,
      time.toNat < 2 ^ 63 - 1000000 / task.runFrequency.toNat - 1000)
    (sleeps : ∀ deadline time,
      .woken deadline time ∈ taskRunner task .entered (start :: times) →
        deadline.toNat < time.toNat + 1000) :
    (∀ before after function pid time,
      taskRunner task .entered (start :: times) = before ++ .called function pid time :: after →
        start.toNat + callsIn before * (1000000 / task.runFrequency.toNat) < time.toNat + 1000) ∧
    ∀ before after deadline checked,
      taskRunner task .entered (start :: times) = before ++ .sleptUntil deadline checked :: after →
        deadline.toNat = start.toNat + callsIn before * (1000000 / task.runFrequency.toNat) ∧
          checked ≤ deadline := by
  have period := runnerPeriod_toNat task
  rw [taskRunner_entered frequency] at sleeps ⊢
  have onTime : (RunnerState.looping start).OnTime start.toNat (runnerPeriod task).toNat 0 start :=
    ⟨by omega, by omega⟩
  have bounded' : ∀ time ∈ times, time.toNat + (runnerPeriod task).toNat + 1000 < 2 ^ 63 := by
    intro time member
    have bound := bounded time (List.mem_cons_of_mem start member)
    omega
  have sleeps' : ∀ event ∈ taskRunner task (.looping start) times, event.EndsInTime := by
    intro event member
    cases event with
    | woken deadline time => exact sleeps deadline time (List.mem_cons_of_mem _ member)
    | _ => trivial
  have punctual : ∀ {before after event},
      RunnerEvent.began start :: taskRunner task (.looping start) times = before ++ event :: after →
        event.OnTime start.toNat (runnerPeriod task).toNat (callsIn before) := by
    intro before after event split
    cases before with
    | nil =>
      obtain ⟨rfl, -⟩ := List.cons.inj split
      trivial
    | cons first before =>
      obtain ⟨rfl, tail⟩ := List.cons.inj split
      have made := taskRunner_onTime onTime ordered bounded' sleeps' tail
      have counted : callsIn (.began start :: before) = 0 + callsIn before :=
        callsIn_append [.began start] before
      rw [counted]
      exact made
  rw [← period]
  constructor
  · intro before after function pid time split
    exact punctual split
  · intro before after deadline checked split
    exact punctual split

end Punctual

section Example

attribute [local instance] PicoSdk.reference

/-- A task that runs once a second. -/
private def everySecond : Task := { Task.zero with pid := 2, function := 0x10000601, runFrequency := 1 }

/-- The second call comes after a sleep that ended early, the third one is late. -/
private def seconds : List AbsoluteTime := [100, 300, 999500, 999600, 2500000, 2500001]

private theorem seconds_events : taskRunner everySecond .entered (100 :: seconds) =
    [.began 100, .called 0x10000601 2 100, .sleptUntil 1000100 300, .woken 1000100 999500,
      .called 0x10000601 2 999600, .late 2500000, .called 0x10000601 2 2500001] := by
  decide +kernel

theorem runner_punctual_example :
    (∀ before after function pid time,
      taskRunner everySecond .entered (100 :: seconds) =
          before ++ .called function pid time :: after →
        100 + callsIn before * 1000000 < time.toNat + 1000) ∧
    ∀ before after deadline checked,
      taskRunner everySecond .entered (100 :: seconds) =
          before ++ .sleptUntil deadline checked :: after →
        deadline.toNat = 100 + callsIn before * 1000000 ∧ checked ≤ deadline := by
  have sleeps : ∀ deadline time,
      .woken deadline time ∈ taskRunner everySecond .entered (100 :: seconds) →
        deadline.toNat < time.toNat + 1000 := by
    intro deadline time member
    rw [seconds_events] at member
    simp only [List.mem_cons, RunnerEvent.woken.injEq, List.not_mem_nil, reduceCtorEq, or_false,
      false_or] at member
    rw [member.1, member.2]
    decide
  have early : ∀ time ∈ 100 :: seconds, time.toNat < 3000000 := by
    intro time member
    simp only [seconds, List.mem_cons, List.not_mem_nil, or_false] at member
    rcases member with rfl | rfl | rfl | rfl | rfl | rfl | rfl <;> decide
  have period : 1000000 / everySecond.runFrequency.toNat = 1000000 := by decide
  have bounded : ∀ time ∈ 100 :: seconds,
      time.toNat < 2 ^ 63 - 1000000 / everySecond.runFrequency.toNat - 1000 := by
    intro time member
    have bound := early time member
    omega
  exact runner_punctual everySecond (by decide) (by decide) bounded sleeps

end Example

end Gkrtos
