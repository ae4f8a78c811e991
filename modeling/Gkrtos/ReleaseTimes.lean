import Gkrtos.Threads
import Gkrtos.TaskRecords

/-! Periodic tasks under the kernel. That a sleep ends in time is no assumption here: it
is what the kernel does, and the runner that relies on it is one of the threads. So
the function of a periodic task is not called before its release times, whatever the
other threads do, and whatever the function itself does between its calls. -/
namespace Gkrtos
open KernelRefinement

variable {σ γ : Type}

/-- What the runner of one task did. -/
def eventsOf (pid : Pid) (events : List (Pid × RunnerEvent)) : List RunnerEvent :=
  (events.filter fun event => event.1 = pid).map Prod.snd

theorem eventsOf_append (pid : Pid) (events events' : List (Pid × RunnerEvent)) :
    eventsOf pid (events ++ events') = eventsOf pid events ++ eventsOf pid events' := by
  simp [eventsOf]

theorem eventsOf_own (pid : Pid) (event : Option RunnerEvent) :
    eventsOf pid (event.map (pid, ·)).toList = event.toList := by
  cases event <;> simp [eventsOf]

theorem eventsOf_other {pid other : Pid} (different : other ≠ pid) (event : Option RunnerEvent) :
    eventsOf pid (event.map (other, ·)).toList = [] := by
  cases event <;> simp [eventsOf, different]

/-! ## Threads on time -/

/-- The sleep of the runner that ends here. -/
def Place.sleptUntil : Place σ → Option AbsoluteTime
  | .runner (.sleeping nextRun) => some nextRun
  | _ => none

/-- The runner is on time, and a function that was called returns into the loop. -/
def Place.OnTime (began period calls : Nat) (now : AbsoluteTime) : Place σ → Prop
  | .runner state => state.OnTime began period calls now
  | .function (.inFunction nextRun) _ => (RunnerState.inFunction nextRun).OnTime began period calls now
  | .function _ _ => False

/-- A sleep of the runner that has ended was long enough, and one that is to begin or
has begun is a call of `sleep_until` with its deadline. -/
def Thread.OnTime (began period calls : Nat) (now : AbsoluteTime) : Thread σ → Prop
  | .running place => place.OnTime began period calls now ∧
    ∀ deadline ∈ place.sleptUntil, deadline.toNat < now.toNat + 1000
  | .calls number args next => ∀ result, (next result).OnTime began period calls now ∧
    ∀ deadline ∈ (next result).sleptUntil, number = syscallSleepUntil ∧ args.milliseconds = deadline
  | .inCall number args place => place.OnTime began period calls now ∧
    ∀ deadline ∈ place.sleptUntil, number = syscallSleepUntil ∧ args.milliseconds = deadline

section OnTime

variable {began period calls : Nat} {now later : AbsoluteTime}

/-- Nobody gets ahead of time by waiting. -/
theorem RunnerState.OnTime.mono {state : RunnerState} (onTime : state.OnTime began period calls now)
    (le : now.toNat ≤ later.toNat) : state.OnTime began period calls later := by
  cases state with
  | looping nextRun => exact ⟨onTime.1, Nat.lt_of_lt_of_le onTime.2 (Nat.add_le_add_right le 1000)⟩
  | entered => exact onTime
  | inFunction nextRun => exact onTime
  | sleeping nextRun => exact onTime
  | inOnlyCall => exact onTime
  | dead => exact onTime

theorem Place.OnTime.mono {place : Place σ} (onTime : place.OnTime began period calls now)
    (le : now.toNat ≤ later.toNat) : place.OnTime began period calls later := by
  cases place with
  | runner state => exact RunnerState.OnTime.mono onTime le
  | function state code =>
    cases state with
    | inFunction nextRun => exact onTime
    | _ => exact absurd onTime id

theorem Place.OnTime.representable {place : Place σ} {deadline : AbsoluteTime}
    (onTime : place.OnTime began period calls now) (sleeps : deadline ∈ place.sleptUntil) :
    deadline.toNat < 2 ^ 63 := by
  cases place with
  | runner state =>
    cases state with
    | sleeping nextRun =>
      obtain rfl := Option.some.inj sleeps
      exact onTime.2
    | _ => cases sleeps
  | function state code => cases sleeps

theorem Thread.OnTime.mono {thread : Thread σ} (onTime : thread.OnTime began period calls now)
    (le : now.toNat ≤ later.toNat) : thread.OnTime began period calls later := by
  cases thread with
  | running place =>
    exact ⟨onTime.1.mono le, fun deadline member =>
      Nat.lt_of_lt_of_le (onTime.2 deadline member) (Nat.add_le_add_right le 1000)⟩
  | calls number args next => exact fun result => ⟨(onTime result).1.mono le, (onTime result).2⟩
  | inCall number args place => exact ⟨onTime.1.mono le, onTime.2⟩

/-- Where the runner stands after a step, its thread does. -/
theorem Thread.onTime_afterRunner [PicoSdk] (functions : Functions σ γ) (task : Task) {state : RunnerState}
    (onTime : state.OnTime began period calls now) :
    (Thread.afterRunner functions task state).OnTime began period calls now := by
  cases state with
  | entered => exact absurd onTime id
  | looping nextRun => exact ⟨onTime, fun deadline member => absurd member (by simp [Place.sleptUntil])⟩
  | inFunction nextRun => exact ⟨onTime, fun deadline member => absurd member (by simp [Place.sleptUntil])⟩
  | sleeping nextRun =>
    refine fun _ => ⟨onTime, fun deadline member => ⟨rfl, ?_⟩⟩
    exact Option.some.inj member
  | inOnlyCall => exact absurd onTime id
  | dead => exact absurd onTime id

/-- The runner wakes up from the sleep that it was in. -/
theorem taskRunnerStep_woken [PicoSdk] {task : Task} {time deadline woke : AbsoluteTime}
    {state : RunnerState} (made : .woken deadline woke ∈ (taskRunnerStep task time state).2) :
    state = .sleeping deadline ∧ woke = time := by
  cases state with
  | sleeping nextRun =>
    obtain ⟨rfl, rfl⟩ := RunnerEvent.woken.inj (Option.some.inj made)
    exact ⟨rfl, rfl⟩
  | entered =>
    simp only [taskRunnerStep] at made
    split_ifs at made <;> cases made
  | looping nextRun => cases made
  | inFunction nextRun =>
    simp only [taskRunnerStep] at made
    split_ifs at made <;> cases made
  | inOnlyCall => cases made
  | dead => cases made

/-- The step lemma for the code of the thread. -/
theorem Place.step_onTime [PicoSdk] {functions : Functions σ γ} {task : Task} {time : AbsoluteTime}
    {globals globals' : γ} {place : Place σ} {thread : Thread σ} {event : Option RunnerEvent}
    (moved : place.step functions task time globals = some (thread, event, globals'))
    (onTime : (Thread.running place).OnTime began (runnerPeriod task).toNat calls now)
    (le : now.toNat ≤ time.toNat) (bounded : time.toNat + (runnerPeriod task).toNat + 1000 < 2 ^ 63) :
    (∀ made ∈ event, made.OnTime began (runnerPeriod task).toNat calls) ∧
      thread.OnTime began (runnerPeriod task).toNat (calls + callsIn event.toList) time := by
  obtain ⟨onTime, slept⟩ := onTime
  -- A step of the runner, in the loop or behind the function.
  have steps : ∀ {state : RunnerState}, state.OnTime began (runnerPeriod task).toNat calls now →
      (∀ deadline, state = .sleeping deadline → deadline.toNat < now.toNat + 1000) →
      (∀ made ∈ (taskRunnerStep task time state).2, made.OnTime began (runnerPeriod task).toNat calls) ∧
      (Thread.afterRunner functions task (taskRunnerStep task time state).1).OnTime began
        (runnerPeriod task).toNat (calls + callsIn (taskRunnerStep task time state).2.toList) time := by
    intro state onTime slept
    have ends : ∀ made ∈ (taskRunnerStep task time state).2, made.EndsInTime := by
      intro made member
      cases made with
      | woken deadline woke =>
        obtain ⟨same, rfl⟩ := taskRunnerStep_woken member
        exact Nat.lt_of_lt_of_le (slept deadline same) (Nat.add_le_add_right le 1000)
      | _ => trivial
    obtain ⟨made, next⟩ := taskRunnerStep_onTime onTime le bounded ends
    exact ⟨made, Thread.onTime_afterRunner functions task next⟩
  unfold Place.step at moved
  split at moved
  case h_1 => cases moved
  case h_2 state alive =>
    cases moved
    refine steps onTime fun deadline same => slept deadline ?_
    rw [same]
    rfl
  case h_3 state code =>
    obtain ⟨nextRun, rfl⟩ : ∃ nextRun, state = .inFunction nextRun := by
      cases state with
      | inFunction nextRun => exact ⟨nextRun, rfl⟩
      | _ => exact absurd onTime id
    split at moved
    case h_1 next globals'' move =>
      cases moved
      refine ⟨fun made member => absurd member (by simp), onTime, ?_⟩
      exact fun deadline member => absurd member (by simp [Place.sleptUntil])
    case h_2 number args next globals'' move =>
      cases moved
      refine ⟨fun made member => absurd member (by simp), fun result => ⟨onTime, ?_⟩⟩
      exact fun deadline member => absurd member (by simp [Place.sleptUntil])
    case h_3 globals'' move =>
      cases moved
      have returned : (RunnerState.inFunction nextRun).OnTime began (runnerPeriod task).toNat calls now :=
        onTime
      exact steps returned fun deadline same => RunnerState.noConfusion same

end OnTime

/-! ## Runs -/

namespace Board

/-- When the runner of the task was entered with so many microseconds between releases,
every event since then was on time, and so is what the thread does next. -/
structure KeepsTime (pid : Pid) (period : Nat) (board : Board σ γ) (start : AbsoluteTime)
    (since : List RunnerEvent) : Prop where
  events : ∀ before event after, since = before ++ event :: after →
    event.OnTime start.toNat period (callsIn before)
  thread : (board.threads pid).OnTime start.toNat period (callsIn since) board.now

/-- The thread of the task has not run yet, or has kept time since it began. -/
def OnSchedule (pid : Pid) (period : Nat) (board : Board σ γ) (events : List (Pid × RunnerEvent)) :
    Prop :=
  eventsOf pid events = [] ∧ board.threads pid = .fresh ∨
    ∃ start since, eventsOf pid events = .began start :: since ∧ KeepsTime pid period board start since

variable {pid : Pid} {period : Nat} {board board' : Board σ γ} {events : List (Pid × RunnerEvent)}
variable {start time : AbsoluteTime} {since : List RunnerEvent}

/-- Others run. -/
theorem OnSchedule.waits (onSchedule : OnSchedule pid period board events)
    (thread : board'.threads pid = board.threads pid) (later : board.now.toNat ≤ board'.now.toNat)
    {event : List (Pid × RunnerEvent)} (others : eventsOf pid event = []) :
    OnSchedule pid period board' (events ++ event) := by
  unfold OnSchedule
  rw [eventsOf_append, others, List.append_nil, thread]
  refine onSchedule.imp id ?_
  rintro ⟨start, since, began, keeps⟩
  refine ⟨start, since, began, keeps.events, ?_⟩
  rw [thread]
  exact keeps.thread.mono later

/-- The thread gets past a system call. -/
theorem OnSchedule.calls (onSchedule : OnSchedule pid period board events)
    (notFresh : board.threads pid ≠ .fresh)
    (goesOn : ∀ start calls, (board.threads pid).OnTime start period calls board.now →
      (board'.threads pid).OnTime start period calls board'.now) :
    OnSchedule pid period board' events := by
  cases onSchedule with
  | inl unrun => exact absurd unrun.2 notFresh
  | inr ran =>
    obtain ⟨start, since, began, keeps⟩ := ran
    exact .inr ⟨start, since, began, keeps.events, goesOn _ _ keeps.thread⟩

/-- One more event. -/
theorem KeepsTime.snoc (keeps : KeepsTime pid period board start since) {event : Option RunnerEvent}
    (made : ∀ made ∈ event, made.OnTime start.toNat period (callsIn since))
    (next : (board'.threads pid).OnTime start.toNat period (callsIn since + callsIn event.toList)
      board'.now) :
    KeepsTime pid period board' start (since ++ event.toList) := by
  refine ⟨fun before last after split => ?_, by rwa [callsIn_append]⟩
  cases event with
  | none =>
    rw [Option.toList_none, List.append_nil] at split
    exact keeps.events before last after split
  | some newest =>
    obtain rfl | ⟨after, final, rfl⟩ := List.eq_nil_or_concat after
    · obtain ⟨rfl, last⟩ := List.append_inj' split rfl
      cases last
      exact made _ rfl
    · rw [List.concat_eq_append, ← List.cons_append, ← List.append_assoc] at split
      exact keeps.events before last after (List.append_inj_left' split rfl)

variable [PicoSdk] {functions : Functions σ γ} {final : Board σ γ}
variable {event : Option (Pid × RunnerEvent)} {mask : InterruptMask} {s : Scheduler}

/-- The code of the thread itself runs. -/
theorem OnSchedule.code {place : Place σ} {thread : Thread σ} {made : Option RunnerEvent}
    {globals : γ} (onSchedule : OnSchedule pid period board events)
    (runs : board.system.kernel.running = pid) (at_place : board.current = .running place)
    (periodic : 1 ≤ board.currentTask.runFrequency.toNat)
    (period_eq : (runnerPeriod board.currentTask).toNat = period)
    (later : board.now.toNat ≤ time.toNat) (bounded : time.toNat + period + 1000 < 2 ^ 63)
    (moved : place.step functions board.currentTask time board.globals = some (thread, made, globals)) :
    OnSchedule pid period { board with now := time, threads := board.resumeWith thread, globals }
      (events ++ (made.map (pid, ·)).toList) := by
  subst runs
  subst period_eq
  have thread_eq : board.threads board.system.kernel.running = .running place := at_place
  unfold OnSchedule
  rw [eventsOf_append, eventsOf_own]
  cases onSchedule with
  | inl unrun =>
    obtain ⟨none, fresh⟩ := unrun
    obtain rfl : place = .runner .entered := Thread.running.inj (thread_eq.symm.trans fresh)
    have entered := taskRunnerStep_entered periodic time
    simp only [Place.step, entered, Thread.afterRunner_looping, Option.some.injEq,
      Prod.mk.injEq] at moved
    obtain ⟨rfl, rfl, -⟩ := moved
    refine .inr ⟨time, [], by rw [none]; rfl, ?_, ?_⟩
    · intro before event after split
      simp at split
    · show Thread.OnTime _ _ _ time (board.resumeWith _ board.system.kernel.running)
      rw [resumeWith_self]
      refine ⟨⟨?_, Nat.lt_add_of_pos_right (by decide)⟩, fun deadline member => ?_⟩
      · rw [callsIn, List.countP_nil, Nat.zero_mul, Nat.add_zero]
      · exact absurd member (by simp [Place.sleptUntil])
  | inr ran =>
    obtain ⟨start, since, began, keeps⟩ := ran
    have onTime := keeps.thread
    rw [thread_eq] at onTime
    obtain ⟨now_onTime, next_onTime⟩ := Place.step_onTime moved onTime later bounded
    refine .inr ⟨start, since ++ made.toList, by rw [began]; rfl, keeps.snoc now_onTime ?_⟩
    show Thread.OnTime _ _ _ time (board.resumeWith _ board.system.kernel.running)
    rw [resumeWith_self]
    exact next_onTime

variable [Malloc]

/-- The step lemma. The clock does not come near the end of time. -/
theorem onSchedule_step (good : Good mask board.system s) (rests : SleepersRest mask s board)
    (periodic : 1 ≤ (board.system.kernel.taskList pid).runFrequency.toNat)
    (period_eq : (runnerPeriod (board.system.kernel.taskList pid)).toNat = period)
    (onSchedule : OnSchedule pid period board events) (step : Step functions board event board')
    (bounded : board'.now.toNat + period + 1000 < 2 ^ 63) :
    OnSchedule pid period board' (events ++ event.toList) := by
  cases step with
  | @interrupt action system next interrupts permitted ordered stepped =>
    have le := UInt64.le_iff_toNat_le.mp ordered.2
    refine onSchedule.waits ?_ le rfl
    rfl
  | @code place time thread event globals runs at_place later moved =>
    have le := UInt64.le_iff_toNat_le.mp later
    by_cases own : board.system.kernel.running = pid
    · subst own
      exact onSchedule.code rfl at_place periodic period_eq le bounded moved
    · exact onSchedule.waits (resumeWith_other thread (Ne.symm own)) le (eventsOf_other own event)
  | @svc stackptr number args read now next place system value calls permitted ordered stepped =>
    have le := UInt64.le_iff_toNat_le.mp ordered.2
    by_cases own : board.system.kernel.running = pid
    · subst own
      rw [Option.toList_none, List.append_nil]
      have thread : board.threads board.system.kernel.running = .calls number args place := calls
      refine onSchedule.calls (by simp [thread, Thread.fresh]) fun start calls onTime => ?_
      rw [thread] at onTime
      show Thread.OnTime _ _ _ next (board.resumeWith _ board.system.kernel.running)
      rw [resumeWith_self]
      exact ⟨(onTime value).1.mono le, (onTime value).2⟩
    · exact onSchedule.waits (resumeWith_other _ (Ne.symm own)) le rfl
  | @returns number args place time runs called later =>
    have le := UInt64.le_iff_toNat_le.mp later
    by_cases own : board.system.kernel.running = pid
    · subst own
      rw [Option.toList_none, List.append_nil]
      have thread : board.threads board.system.kernel.running = .inCall number args place := called
      refine onSchedule.calls (by simp [thread, Thread.fresh]) fun start calls onTime => ?_
      rw [thread] at onTime
      obtain ⟨onTime, sleeps⟩ := onTime
      show Thread.OnTime _ _ _ time (board.resumeWith _ board.system.kernel.running)
      rw [resumeWith_self]
      refine ⟨onTime.mono le, fun deadline member => ?_⟩
      obtain ⟨rfl, rfl⟩ := sleeps deadline member
      have ended := rests.ended good runs called (onTime.representable member)
      exact Nat.lt_of_lt_of_le ended (Nat.add_le_add_right le 1000)
    · exact onSchedule.waits (resumeWith_other _ (Ne.symm own)) le rfl

/-- What the creator of a task chose stays on the board. -/
theorem birth_step (good : Good mask board.system s) (step : Step functions board event board')
    (created : pid < board.system.kernel.currentMaxPid) :
    pid < board'.system.kernel.currentMaxPid ∧
      (board'.system.kernel.taskList pid).birth = (board.system.kernel.taskList pid).birth := by
  obtain same | ⟨action, permitted, stepped⟩ := step_system step
  · rw [same]
    exact ⟨created, rfl⟩
  · have good' := (good_step good permitted.1 stepped).1
    have shows := good.outside.shows
    have shows' := good'.outside.shows
    have counter : board.system.kernel.currentMaxPid = s.maxPid := congrArg Scheduler.maxPid shows
    have counter' : board'.system.kernel.currentMaxPid = _ := congrArg Scheduler.maxPid shows'
    have table : board.system.kernel.taskList = s.table := congrArg Scheduler.table shows
    have table' : board'.system.kernel.taskList = _ := congrArg Scheduler.table shows'
    obtain ⟨keeps, more⟩ := Scheduler.keepsBirth_step good.invariant ((legal_iff good).mp permitted.1)
    rw [counter] at created
    rw [counter', table, table']
    exact ⟨Nat.lt_of_lt_of_le created more, keeps pid created⟩

/-- The run lemma. -/
theorem onSchedule_run {final : Board σ γ} (good : Good mask board.system s)
    (created : pid < board.system.kernel.currentMaxPid) (rests : SleepersRest mask s board)
    (periodic : 1 ≤ (board.system.kernel.taskList pid).runFrequency.toNat)
    (unrun : board.threads pid = .fresh) (run : Runs functions board events final)
    (bounded : final.now.toNat +
      (runnerPeriod (board.system.kernel.taskList pid)).toNat + 1000 < 2 ^ 63) :
    OnSchedule pid (runnerPeriod (board.system.kernel.taskList pid)).toNat final events := by
  have kept := runs_induction
    (fun mask s board' events => SleepersRest mask s board' ∧
      pid < board'.system.kernel.currentMaxPid ∧
      (board'.system.kernel.taskList pid).birth = (board.system.kernel.taskList pid).birth ∧
      (board'.now.toNat + (runnerPeriod (board.system.kernel.taskList pid)).toNat + 1000 < 2 ^ 63 →
        OnSchedule pid (runnerPeriod (board.system.kernel.taskList pid)).toNat board' events))
    (fun {mask s between events event next} good ⟨rests, created, born, onSchedule⟩ step => by
      obtain ⟨mask', s', good', rests'⟩ := sleepersRest_step good rests step
      obtain ⟨created', born'⟩ := birth_step good step created
      have frequency : (between.system.kernel.taskList pid).runFrequency =
          (board.system.kernel.taskList pid).runFrequency := congrArg Birth.runFrequency born
      have period_eq : runnerPeriod (between.system.kernel.taskList pid) =
          runnerPeriod (board.system.kernel.taskList pid) := by rw [runnerPeriod, frequency, runnerPeriod]
      refine ⟨mask', s', good', rests', created', born'.trans born, fun bounded => ?_⟩
      have later := UInt64.le_iff_toNat_le.mp (step_later step)
      refine onSchedule_step good rests (frequency ▸ periodic) (congrArg UInt64.toNat period_eq)
        (onSchedule (by omega)) step bounded)
    good ⟨rests, created, rfl, fun _ => .inl ⟨rfl, unrun⟩⟩ run
  obtain ⟨mask', s', -, -, -, -, onSchedule⟩ := kept
  exact onSchedule bounded

end Board

section Example

open Board

attribute [local instance] PicoSdk.reference Malloc.reference

/-- The function at address 7 returns at once, any other one yields. -/
private def punctual : Functions Bool Unit where
  enter function _ := function == 7
  move returns _ _ :=
    (if returns then .finish else .call syscallYield .zero fun _ => returns, ())

/-- Two rounds of a task that runs every 1250 microseconds. The sleep between them
ends almost a millisecond early. -/
private def twoRounds : List Stimulus := [
  .code 10, .code 11, .svc 0 .zero 12 13 0x10000705, .interrupt .takePendsv 13,
  .interrupt (.pendsv 0 14 15) 15,
  .code 16, .code 17, .code 18, .svc 0 .zero 19 20 0x10000705, .interrupt .takePendsv 20,
  .interrupt (.pendsv 0 21 22) 22, .returns 23, .code 24, .svc 0 .zero 300 301 0x10000705,
  .interrupt .takePendsv 301, .interrupt (.pendsv 0 302 303) 303, .returns 304, .code 305,
  .code 306]

private def often : Sketch Bool Unit := .initial 0 0 [⟨0, 7, 0, 800⟩] 0 ()

private def played : Option (Sketch Bool Unit) := Sketch.playAll punctual twoRounds often

private theorem played_began :
    played.map (fun sketch => (eventsOf 2 sketch.events).take 1) = some [.began 16] := by
  decide +kernel

private theorem played_between :
    played.map (fun sketch => callsIn ((eventsOf 2 sketch.events).tail.take 3)) = some 1 := by
  decide +kernel

private def callTime : RunnerEvent → Option AbsoluteTime
  | .called _ _ time => some time
  | _ => none

private theorem played_last :
    played.map (fun sketch => ((eventsOf 2 sketch.events).tail.drop 3).map callTime) =
      some [some 306] := by
  decide +kernel

private theorem played_now : played.map Sketch.now = some 306 := by decide +kernel

end Example

end Gkrtos
