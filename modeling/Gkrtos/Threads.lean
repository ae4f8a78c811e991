import Gkrtos.TaskRunner
import Gkrtos.NoEarlyWakeUp

/-! The kernel with the threads it runs. Every thread begins in
`gkrtos_internal_task_runner`, which calls the function of its task. What the functions
do is a parameter: they compute, make system calls and return. The handlers come in
between any two steps of the thread that has the core. -/
namespace Gkrtos
open KernelRefinement

variable {σ γ : Type}

/-- What the code of a function does next. -/
inductive Move (σ : Type) where
  | compute (next : σ)
  /-- A system call, and where the code goes on with what it finds in r0. -/
  | call (number : Word) (args : SyscallArgs) (next : Word → σ)
  | finish

/-- The functions of the tasks, over the variables they share. -/
structure Functions (σ γ : Type) where
  /-- `function(pid)`, for the function at this address. -/
  enter : Word → Pid → σ
  move : σ → AbsoluteTime → γ → Move σ × γ

/-- Where the code of a thread is: in the runner, or in the function that the runner
has called. -/
inductive Place (σ : Type) where
  | runner (state : RunnerState)
  | function (state : RunnerState) (code : σ)

/-- A thread, also around the `svc` instruction. -/
inductive Thread (σ : Type) where
  | running (place : Place σ)
  /-- The arguments are in place, the instruction is next. -/
  | calls (number : Word) (args : SyscallArgs) (next : Word → Place σ)
  /-- The handler has returned. -/
  | inCall (number : Word) (args : SyscallArgs) (next : Place σ)

/-- A thread that no code of has run yet. -/
def Thread.fresh : Thread σ := .running (.runner .entered)

/-- `gkrtos_syscall_sleep_until` -/
def sleepUntilArgs (deadline : AbsoluteTime) : SyscallArgs :=
  { SyscallArgs.zero with milliseconds := deadline }

/-- The runner after one of its steps. It calls the function of the task, or makes a
system call of its own. -/
def Thread.afterRunner (functions : Functions σ γ) (task : Task) : RunnerState → Thread σ
  | .inFunction nextRun =>
    .running (.function (.inFunction nextRun) (functions.enter task.function task.pid))
  | .inOnlyCall => .running (.function .inOnlyCall (functions.enter task.function task.pid))
  | .sleeping nextRun =>
    .calls syscallSleepUntil (sleepUntilArgs nextRun) fun _ => .runner (.sleeping nextRun)
  | .dead => .calls syscallDie .zero fun _ => .runner .dead
  | state => .running (.runner state)

section Code

variable {functions : Functions σ γ} {task : Task} {nextRun : AbsoluteTime}

theorem Thread.afterRunner_looping :
    Thread.afterRunner functions task (.looping nextRun) = .running (.runner (.looping nextRun)) :=
  rfl

theorem Thread.afterRunner_inFunction :
    Thread.afterRunner functions task (.inFunction nextRun) =
      .running (.function (.inFunction nextRun) (functions.enter task.function task.pid)) :=
  rfl

theorem Thread.afterRunner_inOnlyCall :
    Thread.afterRunner functions task .inOnlyCall =
      .running (.function .inOnlyCall (functions.enter task.function task.pid)) :=
  rfl

theorem Thread.afterRunner_sleeping :
    Thread.afterRunner functions task (.sleeping nextRun) =
      .calls syscallSleepUntil (sleepUntilArgs nextRun) fun _ => .runner (.sleeping nextRun) :=
  rfl

end Code

/-- One step of thread code, at this time. A runner whose task is dead does not go on. -/
def Place.step [PicoSdk] (functions : Functions σ γ) (task : Task) (time : AbsoluteTime) (globals : γ) :
    Place σ → Option (Thread σ × Option RunnerEvent × γ)
  | .runner .dead => none
  | .runner state =>
    let (state', event) := taskRunnerStep task time state
    some (.afterRunner functions task state', event, globals)
  | .function state code =>
    match functions.move code time globals with
    | (.compute next, globals') => some (.running (.function state next), none, globals')
    | (.call number args next, globals') =>
      some (.calls number args fun result => .function state (next result), none, globals')
    | (.finish, globals') =>
      let (state', event) := taskRunnerStep task time state
      some (.afterRunner functions task state', event, globals')

/-! ## The board -/

/-- The kernel, the clock, and the threads by pid. -/
structure Board (σ γ : Type) where
  system : System
  now : AbsoluteTime
  threads : Pid → Thread σ
  globals : γ

/-- Thread code runs: no PendSV is to be taken first. -/
def System.ThreadRuns (system : System) : Prop :=
  system.kernel.pendsvActive = false ∧
    (system.kernel.pendsvPending = false ∨ system.kernel.primask = true)

namespace Board

/-- The thread that has the core. -/
def current (board : Board σ γ) : Thread σ := board.threads board.system.kernel.running

/-- Its task. -/
def currentTask (board : Board σ γ) : Task := board.system.kernel.taskList board.system.kernel.running

/-- The running thread goes on from here. -/
def resumeWith (board : Board σ γ) (thread : Thread σ) : Pid → Thread σ :=
  Function.update board.threads board.system.kernel.running thread

/-- No time before the last one, and the next one after all of them. -/
def Ordered (board : Board σ γ) (times : List AbsoluteTime) (next : AbsoluteTime) : Prop :=
  (∀ time ∈ times, time ≤ next) ∧ board.now ≤ next

variable [PicoSdk] [Malloc]

/-- What the hardware and the thread that has the core can do. Behind a system call the
thread finds any value in r0: by the trapping path it is the return address of the call
and not what the handler has answered. -/
inductive Step (functions : Functions σ γ) :
    Board σ γ → Option (Pid × RunnerEvent) → Board σ γ → Prop where
  | interrupt {board : Board σ γ} {action : Action} {system : System} {next : AbsoluteTime}
    (interrupts : action.Interrupts) (permitted : board.system.Permitted action)
    (ordered : board.Ordered action.times next) (stepped : board.system.step action = some system) :
    Step functions board none { board with system, now := next }
  | code {board : Board σ γ} {place : Place σ} {time : AbsoluteTime} {thread : Thread σ}
    {event : Option RunnerEvent} {globals : γ} (runs : board.system.ThreadRuns)
    (at_place : board.current = .running place) (later : board.now ≤ time)
    (moved : place.step functions board.currentTask time board.globals =
      some (thread, event, globals)) :
    Step functions board (event.map (board.system.kernel.running, ·))
      { board with now := time, threads := board.resumeWith thread, globals }
  | svc {board : Board σ γ} {stackptr number : Word} {args : SyscallArgs} {read : ItemsAsTasks}
    {now next : AbsoluteTime} {place : Word → Place σ} {system : System} {value : Word}
    (calls : board.current = .calls number args place)
    (permitted : board.system.Permitted
      (.svc stackptr number { args with itemsAsTasks := read } now))
    (ordered : board.Ordered [now] next)
    (stepped : board.system.step (.svc stackptr number { args with itemsAsTasks := read } now) =
      some system) :
    Step functions board none
      { board with
        system
        now := next
        threads := board.resumeWith (.inCall number args (place value)) }
  | returns {board : Board σ γ} {number : Word} {args : SyscallArgs} {place : Place σ}
    {time : AbsoluteTime} (runs : board.system.ThreadRuns)
    (called : board.current = .inCall number args place) (later : board.now ≤ time) :
    Step functions board none
      { board with now := time, threads := board.resumeWith (.running place) }

/-- These events happen from one board to the other. -/
inductive Runs (functions : Functions σ γ) :
    Board σ γ → List (Pid × RunnerEvent) → Board σ γ → Prop where
  | none (board : Board σ γ) : Runs functions board [] board
  | next {board between final : Board σ γ} {events : List (Pid × RunnerEvent)}
    {event : Option (Pid × RunnerEvent)} (before : Runs functions board events between)
    (step : Step functions between event final) :
    Runs functions board (events ++ event.toList) final

/-- The kernel has just been started, and no thread has run. -/
structure Started (board : Board σ γ) : Prop where
  system : board.system.StartedAt board.now
  threads : ∀ pid, board.threads pid = .fresh

def Reachable (functions : Functions σ γ) (board : Board σ γ) : Prop :=
  ∃ started events, Started started ∧ Runs functions started events board

end Board

/-! ## What a handler reads the clock for -/

namespace Scheduler

variable [PicoSdk] {live : Finset Pid} {s : Scheduler} {task : Pid} {deadline now : AbsoluteTime}

theorem selected_yield {time : AbsoluteTime} {woken : Bool} (quiet : s.trace = [])
    (selected : .selected task time woken ∈ (s.yield now).trace) : time = now := by
  obtain ⟨-, -, -, -, -, -, -, -, -, -, trace⟩ := yield_fields s now
  rw [trace, quiet, List.nil_append, List.mem_singleton, Event.selected.injEq] at selected
  exact selected.2.1

/-- A task is chosen at a time that the handler has read. -/
theorem selected_time {action : Action} {time : AbsoluteTime} {woken : Bool}
    (selected : .selected task time woken ∈ (s.step action).trace) : time ∈ action.times := by
  cases action with
  | svc stackptr number args now =>
    change .selected task time woken ∈ (Scheduler.syscall _ number args now).trace at selected
    have killed : ∀ victim, .selected task time woken ∈ ({ s with trace := [] }.kill victim now).trace →
        time = now := by
      intro victim selected
      obtain ⟨-, -, -, -, -, -, -, -, trace⟩ := kill_fields { s with trace := [] } victim now
      rw [trace, List.nil_append, List.mem_singleton, Event.selected.injEq] at selected
      exact selected.2.1
    apply List.mem_singleton.mpr
    unfold syscall at selected
    split_ifs at selected
    · exact killed _ selected
    · exact selected_yield rfl selected
    · exact killed _ selected
    · exact selected_yield (postpone_fields _ _ _ _).2.2.2.2.2.1 selected
    · rw [(createTask_fields _ _ _).2.2.2.2.2] at selected
      exact absurd selected List.not_mem_nil
    · exact absurd selected List.not_mem_nil
  | systick stackptr now now' now'' =>
    change .selected task time woken ∈ (Scheduler.systick _ now now' now'').trace at selected
    unfold systick at selected
    split_ifs at selected
    · simp [Action.times, selected_yield rfl selected]
    · exact absurd selected List.not_mem_nil
  | takePendsv => exact absurd selected List.not_mem_nil
  | pendsv stackptr now now' => exact absurd selected (not_selected_pendsv rfl)

/-- A handler that runs more than a systick period before the deadline chooses
early. -/
theorem early_step {action : Action} {next : AbsoluteTime} (before : ∀ time ∈ action.times, time ≤ next)
    (early : next.toNat + 1000 ≤ deadline.toNat) : Early deadline (s.step action).trace := by
  intro event member
  cases event with
  | selected task time woken =>
    have le := UInt64.le_iff_toNat_le.mp (before time (selected_time member))
    exact Nat.le_trans (Nat.add_le_add_right le 1000) early
  | dispatched pid => trivial

/-- The task sleeps until the deadline, and does not have the core when no switch can
take it away. -/
structure Resting (mask : InterruptMask) (live : Finset Pid) (s : Scheduler) (task : Pid)
    (deadline : AbsoluteTime) : Prop where
  asleep : Asleep live s task deadline
  masked : mask = true → s.running ≠ task

variable {mask : InterruptMask}

omit [PicoSdk] in
/-- Its code does not run. -/
theorem Resting.waits (resting : Resting mask live s task deadline) (untaken : s.taken = false)
    (unasked : s.requested = false ∨ mask = true) : s.running ≠ task := by
  intro runs
  cases unasked with
  | inl unasked =>
    have leaving := resting.asleep.leaving runs
    simp [untaken, unasked] at leaving
  | inr masked => exact resting.masked masked runs

/-- The step lemma. -/
theorem resting_step {action : Action} (resting : Resting mask live s task deadline)
    (invariant : Invariant live s) (timed : Timed deadline) (permitted : Permitted mask live s action)
    (early : Early deadline (s.step action).trace) :
    Resting (s.maskAfter mask action) (s.liveAfter live action) (s.step action) task deadline := by
  obtain ⟨legal, mayTake⟩ := permitted
  have awake : s.CallerRuns action := by
    cases action with
    | svc stackptr number args now => exact fun _ => mayTake.2
    | systick stackptr now now' now'' => trivial
    | takePendsv => trivial
    | pendsv stackptr now now' => trivial
  refine ⟨asleep_step resting.asleep invariant timed legal awake early, ?_⟩
  cases action with
  | svc stackptr number args now => exact fun masked => absurd masked (by simp [maskAfter, mayTake.1])
  | systick stackptr now now' now'' =>
    have enabled : mask = false := mayTake
    exact fun masked => absurd masked (by simp [maskAfter, enabled])
  | takePendsv => exact fun masked => absurd masked (by simp [maskAfter, mayTake.1])
  | pendsv stackptr now now' =>
    have unqueued := resting.asleep.unqueued
    have running := invariant.numbered.pids _ invariant.numbered.running
    have queued := invariant.numbered.pids _ invariant.numbered.queued
    intro _
    show (Scheduler.pendsv _ stackptr now now').running ≠ task
    unfold pendsv
    split_ifs with same
    · exact fun runs => unqueued (same.trans (running.trans runs))
    · exact fun runs => unqueued (queued.symm.trans runs)

/-- Falling asleep. -/
theorem resting_sleepUntil {stackptr : Word} {args : SyscallArgs} (invariant : Invariant live s)
    (timed : Timed args.milliseconds)
    (permitted : Permitted mask live s (.svc stackptr syscallSleepUntil args now))
    (early : Early args.milliseconds (s.step (.svc stackptr syscallSleepUntil args now)).trace) :
    Resting mask live (s.step (.svc stackptr syscallSleepUntil args now)) s.running
      args.milliseconds := by
  obtain ⟨legal, enabled, -⟩ := permitted
  have caller : s.Caller live := by simpa [Legal, syscallSleepUntil, syscallYield, syscallCreateTask,
    syscallDie, syscallKill, syscallTaskNextTick] using legal
  exact ⟨asleep_sleepUntil (invariant.of_record [] s.requested s.taken) caller.1 caller.2 rfl timed
    early, fun masked => absurd masked (by simp [enabled])⟩

end Scheduler

/-! ## Runs of the board -/

/-- A kernel stands for one scheduler. -/
theorem good_unique {mask mask' : InterruptMask} {system : System} {s s' : Scheduler}
    (good : Good mask system s) (good' : Good mask' system s') : mask = mask' ∧ s = s' :=
  ⟨good.outside.mask.symm.trans good'.outside.mask,
    good.outside.shows.symm.trans good'.outside.shows⟩

namespace Board

variable [PicoSdk] {functions : Functions σ γ} {board board' final : Board σ γ}
variable {event : Option (Pid × RunnerEvent)} {events : List (Pid × RunnerEvent)}
variable {mask : InterruptMask} {s : Scheduler}

/-- Thread code does not get behind a system call by itself. -/
theorem step_not_inCall {place next : Place σ} {task : Task} {time : AbsoluteTime} {globals globals' : γ}
    {thread : Thread σ} {made : Option RunnerEvent} {number : Word} {args : SyscallArgs}
    (moved : place.step functions task time globals = some (thread, made, globals')) :
    thread ≠ .inCall number args next := by
  have runner : ∀ state, Thread.afterRunner functions task state ≠ .inCall number args next := by
    intro state same
    cases state <;> cases same
  unfold Place.step at moved
  split at moved
  · cases moved
  · cases moved
    exact runner _
  · split at moved
    · cases moved
      simp
    · cases moved
      simp
    · cases moved
      exact runner _

variable [Malloc]

/-- To the kernel a step of the board is one of its own, or none. -/
theorem step_system (step : Step functions board event board') :
    board'.system = board.system ∨ ∃ action, board.system.Permitted action ∧
      board.system.step action = some board'.system := by
  cases step with
  | interrupt interrupts permitted ordered stepped => exact .inr ⟨_, permitted, stepped⟩
  | code runs at_place later moved => exact .inl rfl
  | svc calls permitted ordered stepped => exact .inr ⟨_, permitted, stepped⟩
  | returns runs called later => exact .inl rfl

/-- Time does not go back. -/
theorem step_later (step : Step functions board event board') : board.now ≤ board'.now := by
  cases step with
  | interrupt interrupts permitted ordered stepped => exact ordered.2
  | code runs at_place later moved => exact later
  | svc calls permitted ordered stepped => exact ordered.2
  | returns runs called later => exact later

/-- So a run of the board is a run of the kernel. -/
theorem runs_system (run : Runs functions board events final) :
    Relation.ReflTransGen (System.Step System.Permitted) board.system final.system := by
  induction run with
  | none => exact .refl
  | next before step ih =>
    obtain same | ⟨action, permitted, stepped⟩ := step_system step
    · rw [same]
      exact ih
    · exact ih.tail ⟨action, permitted, stepped⟩

theorem Reachable.system (reachable : Reachable functions board) :
    board.system.Reachable System.Permitted := by
  obtain ⟨started, events, ⟨isStarted, -⟩, run⟩ := reachable
  exact ⟨started.system, System.started_iff.mpr ⟨_, isStarted⟩, runs_system run⟩

section Induction

variable (property : InterruptMask → Scheduler → Board σ γ → List (Pid × RunnerEvent) → Prop)

/-- The run lemma. -/
theorem runs_induction
    (keeps : ∀ {mask s board events event board'}, Good mask board.system s →
      property mask s board events → Step functions board event board' →
      ∃ mask' s', Good mask' board'.system s' ∧ property mask' s' board' (events ++ event.toList))
    (good : Good mask board.system s) (holds : property mask s board [])
    (run : Runs functions board events final) :
    ∃ mask s, Good mask final.system s ∧ property mask s final events := by
  induction run with
  | none => exact ⟨mask, s, good, holds⟩
  | next before step ih =>
    obtain ⟨mask, s, good, holds⟩ := ih
    exact keeps good holds step

end Induction

/-! ## Sleeping -/

/-- Every thread behind a call of `sleep_until` rests while its deadline is more than
a systick period away. -/
def SleepersRest (mask : InterruptMask) (s : Scheduler) (board : Board σ γ) : Prop :=
  ∀ pid args place, board.threads pid = .inCall syscallSleepUntil args place →
    Scheduler.Timed args.milliseconds → board.now.toNat + 1000 ≤ args.milliseconds.toNat →
      s.Resting mask board.system.live pid args.milliseconds

omit [PicoSdk] [Malloc] in
theorem resumeWith_self (thread : Thread σ) :
    board.resumeWith thread board.system.kernel.running = thread :=
  Function.update_self ..

omit [PicoSdk] [Malloc] in
theorem resumeWith_other {pid : Pid} (thread : Thread σ) (different : pid ≠ board.system.kernel.running) :
    board.resumeWith thread pid = board.threads pid :=
  Function.update_of_ne different ..

omit [PicoSdk] [Malloc] in
/-- A thread that is behind a call is not the one that has moved. -/
theorem resumeWith_behind {thread other : Thread σ} {pid : Pid}
    (behind : board.resumeWith thread pid = other) (different : thread ≠ other) :
    board.threads pid = other := by
  by_cases same : pid = board.system.kernel.running
  · subst same
    exact absurd ((resumeWith_self thread).symm.trans behind) different
  · rwa [resumeWith_other thread same] at behind

theorem sleepersRest_step (good : Good mask board.system s)
    (rest : SleepersRest mask s board) (step : Step functions board event board') :
    ∃ mask' s', Good mask' board'.system s' ∧ SleepersRest mask' s' board' := by
  -- What a handler does to the threads that are behind a call already.
  have handled : ∀ {action : Action} {system : System} {next : AbsoluteTime} {pid args place},
      board.system.Permitted action → board.Ordered action.times next →
      system.live = s.liveAfter board.system.live action →
      board.threads pid = .inCall syscallSleepUntil args place → Scheduler.Timed args.milliseconds →
      next.toNat + 1000 ≤ args.milliseconds.toNat →
        (s.step action).Resting (s.maskAfter mask action) system.live pid args.milliseconds := by
    intro action system next pid args place permitted ordered live behind timed early
    have later := UInt64.le_iff_toNat_le.mp ordered.2
    have resting := rest pid args place behind timed (by omega)
    rw [live]
    exact Scheduler.resting_step resting good.invariant timed ((permitted_iff good).mp permitted)
      (Scheduler.early_step ordered.1 early)
  have running : board.system.kernel.running = s.running := good.running
  cases step with
  | @interrupt action system next interrupts permitted ordered stepped =>
    obtain ⟨good', live⟩ := good_step good permitted.1 stepped
    exact ⟨_, _, good', fun pid args place behind timed early =>
      handled permitted ordered live behind timed early⟩
  | @code place time thread event globals runs at_place later moved =>
    refine ⟨mask, s, good, fun pid args next behind timed early => ?_⟩
    have before := resumeWith_behind behind (step_not_inCall moved)
    have le := UInt64.le_iff_toNat_le.mp later
    exact rest pid args next before timed (Nat.le_trans (Nat.add_le_add_right le 1000) early)
  | @svc stackptr number args read now next place system value calls permitted ordered stepped =>
    obtain ⟨good', live⟩ := good_step good permitted.1 stepped
    refine ⟨_, _, good', fun pid args' place' behind timed early => ?_⟩
    by_cases caller : pid = board.system.kernel.running
    · subst caller
      have made := (resumeWith_self _).symm.trans behind
      obtain ⟨rfl, rfl, -⟩ := Thread.inCall.inj made
      have unchanged : system.live = board.system.live := live
      rw [running, unchanged]
      exact Scheduler.resting_sleepUntil good.invariant timed ((permitted_iff good).mp permitted)
        (Scheduler.early_step ordered.1 early)
    · have before : board.threads pid = _ := (resumeWith_other _ caller).symm.trans behind
      exact handled permitted ordered live before timed early
  | @returns number args place time runs called later =>
    refine ⟨mask, s, good, fun pid args' next behind timed early => ?_⟩
    have before := resumeWith_behind behind (by simp)
    have le := UInt64.le_iff_toNat_le.mp later
    exact rest pid args' next before timed (Nat.le_trans (Nat.add_le_add_right le 1000) early)

/-- Nobody is behind a call when the kernel starts. -/
theorem reachable_sleepersRest (reachable : Reachable functions board) :
    ∃ mask s, Good mask board.system s ∧ SleepersRest mask s board := by
  obtain ⟨started, events, ⟨isStarted, fresh⟩, run⟩ := reachable
  obtain ⟨s, good, -⟩ := started_good (System.started_iff.mpr ⟨_, isStarted⟩)
  refine runs_induction (fun mask s board _ => SleepersRest mask s board)
    (fun good rest step => sleepersRest_step good rest step) good ?_ run
  intro pid args place behind
  rw [fresh pid] at behind
  cases behind

omit [PicoSdk] [Malloc] in
/-- The code of a thread behind a call runs only when the deadline is near. -/
theorem SleepersRest.ended (rests : SleepersRest mask s board) (good : Good mask board.system s)
    (runs : board.system.ThreadRuns) {args : SyscallArgs} {place : Place σ}
    (asleep : board.current = .inCall syscallSleepUntil args place)
    (representable : args.milliseconds.toNat < 2 ^ 63) :
    args.milliseconds.toNat < board.now.toNat + 1000 := by
  by_contra early
  have positive : 0 < args.milliseconds.toNat := by omega
  have resting := rests _ args place asleep ⟨positive, representable⟩ (by omega)
  have running : board.system.kernel.running = s.running := good.running
  obtain ⟨⟨sound, rfl, free, rfl, log⟩, invariant⟩ := good
  exact resting.waits runs.1 runs.2 running.symm

/-- What happens next. -/
inductive Stimulus where
  | interrupt (action : Action) (next : AbsoluteTime)
  | code (time : AbsoluteTime)
  | svc (stackptr : Word) (read : ItemsAsTasks) (now next : AbsoluteTime) (value : Word)
  | returns (time : AbsoluteTime)

/-- A board with the scheduler in the place of the kernel, and what has happened. -/
structure Sketch (σ γ : Type) where
  mask : InterruptMask
  live : Finset Pid
  s : Scheduler
  now : AbsoluteTime
  threads : Pid → Thread σ
  globals : γ
  events : List (Pid × RunnerEvent)

/-- The board of a sketch, after a run with its events. -/
structure Sketch.Of (functions : Functions σ γ) (start board : Board σ γ) (sketch : Sketch σ γ) :
    Prop where
  good : Good sketch.mask board.system sketch.s
  live : board.system.live = sketch.live
  now : board.now = sketch.now
  threads : board.threads = sketch.threads
  globals : board.globals = sketch.globals
  run : Runs functions start sketch.events board

instance : DecidablePred Action.Interrupts
  | .svc _ _ _ _ => inferInstanceAs (Decidable False)
  | .systick _ _ _ _ | .takePendsv | .pendsv _ _ _ => inferInstanceAs (Decidable True)

namespace Sketch

variable (functions : Functions σ γ)

def ThreadRuns (sketch : Sketch σ γ) : Prop :=
  sketch.s.taken = false ∧ (sketch.s.requested = false ∨ sketch.mask = true)

instance (sketch : Sketch σ γ) : Decidable sketch.ThreadRuns :=
  inferInstanceAs (Decidable (_ ∧ _))

/-- A handler runs. -/
def handle (sketch : Sketch σ γ) (action : Action) (next : AbsoluteTime) (thread : Thread σ) :
    Option (Sketch σ γ) :=
  if Scheduler.Permitted sketch.mask sketch.live sketch.s action ∧
      action.times.all (· ≤ next) ∧ sketch.now ≤ next then
    some { sketch with
      mask := sketch.s.maskAfter sketch.mask action
      live := sketch.s.liveAfter sketch.live action
      s := sketch.s.step action
      now := next
      threads := Function.update sketch.threads sketch.s.running thread }
  else none

def play (sketch : Sketch σ γ) : Stimulus → Option (Sketch σ γ)
  | .interrupt action next =>
    if action.Interrupts then sketch.handle action next (sketch.threads sketch.s.running) else none
  | .code time =>
    match sketch.threads sketch.s.running with
    | .running place =>
      if sketch.ThreadRuns ∧ sketch.now ≤ time then
        match place.step functions (sketch.s.table sketch.s.running) time sketch.globals with
        | some (thread, event, globals) => some { sketch with
            now := time
            threads := Function.update sketch.threads sketch.s.running thread
            globals
            events := sketch.events ++ (event.map (sketch.s.running, ·)).toList }
        | none => none
      else none
    | _ => none
  | .svc stackptr read now next value =>
    match sketch.threads sketch.s.running with
    | .calls number args place =>
      let action : Action := .svc stackptr number { args with itemsAsTasks := read } now
      sketch.handle action next (.inCall number args (place value))
    | _ => none
  | .returns time =>
    match sketch.threads sketch.s.running with
    | .inCall _ _ place =>
      if sketch.ThreadRuns ∧ sketch.now ≤ time then
        some { sketch with
          now := time
          threads := Function.update sketch.threads sketch.s.running (.running place) }
      else none
    | _ => none

def playAll : List Stimulus → Sketch σ γ → Option (Sketch σ γ)
  | [], sketch => some sketch
  | stimulus :: rest, sketch => (sketch.play functions stimulus).bind (playAll rest)

end Sketch

variable {functions : Functions σ γ} {start : Board σ γ} {sketch sketch' : Sketch σ γ}

theorem Sketch.Of.threadRuns (of : sketch.Of functions start board) (runs : sketch.ThreadRuns) :
    board.system.ThreadRuns := by
  obtain ⟨⟨⟨sound, shows, free, enabled, log⟩, invariant⟩, live, now, threads, globals, run⟩ := of
  rw [Sketch.ThreadRuns, ← shows, ← enabled] at runs
  exact runs

theorem Sketch.Of.current (of : sketch.Of functions start board) {thread : Thread σ}
    (at_thread : sketch.threads sketch.s.running = thread) : board.current = thread := by
  rw [Board.current, of.good.running, of.threads]
  exact at_thread

/-- A handler of the sketch is one of the board. -/
theorem Sketch.Of.handled (of : sketch.Of functions start board) {action : Action}
    {next : AbsoluteTime} {thread : Thread σ}
    (played : sketch.handle action next thread = some sketch')
    (step : ∀ {system}, board.system.Permitted action → board.Ordered action.times next →
      board.system.step action = some system →
        Step functions board none
          { board with system, now := next, threads := board.resumeWith thread }) :
    ∃ board', sketch'.Of functions start board' := by
  obtain ⟨good, live, now, threads, globals, run⟩ := of
  unfold Sketch.handle at played
  split_ifs at played with allowed
  obtain ⟨permitted, before, later⟩ := allowed
  obtain rfl := Option.some.inj played
  rw [← live] at permitted
  have permitted' := (permitted_iff good).mpr permitted
  obtain ⟨system, stepped, good', live'⟩ := step_simulates good permitted'.1
  have ordered : board.Ordered action.times next :=
    ⟨fun time read => of_decide_eq_true (List.all_eq_true.mp before time read), now ▸ later⟩
  have stepped' := step permitted' ordered stepped
  have finished := run.next stepped'
  rw [Option.toList_none, List.append_nil] at finished
  refine ⟨{ board with system, now := next, threads := board.resumeWith thread }, good', ?_, rfl, ?_,
    globals, finished⟩
  · rw [live', live]
  · show board.resumeWith thread = _
    rw [resumeWith, threads, good.running]

/-- The board does what the sketch does. -/
theorem Sketch.Of.plays (of : sketch.Of functions start board) {stimulus : Stimulus}
    (played : sketch.play functions stimulus = some sketch') :
    ∃ board', sketch'.Of functions start board' := by
  have running := of.good.running
  cases stimulus with
  | interrupt action next =>
    simp only [play] at played
    split_ifs at played with interrupts
    refine of.handled played fun permitted ordered stepped => ?_
    have same : board.resumeWith (sketch.threads sketch.s.running) = board.threads := by
      rw [resumeWith, running, ← of.threads]
      exact Function.update_eq_self _ _
    rw [same]
    exact .interrupt interrupts permitted ordered stepped
  | code time =>
    simp only [play] at played
    split at played
    case h_1 place at_place =>
      split_ifs at played with allowed
      split at played
      case h_1 thread event globals moved =>
        obtain rfl := Option.some.inj played
        have table : board.currentTask = sketch.s.table sketch.s.running := by
          rw [currentTask, running]
          exact congrFun (congrArg Scheduler.table of.good.outside.shows) _
        rw [← table, ← of.globals] at moved
        have step := Step.code (of.threadRuns allowed.1) (of.current at_place)
          (of.now ▸ allowed.2) moved
        have finished := of.run.next step
        rw [running] at finished
        refine ⟨{ board with now := time, threads := board.resumeWith thread, globals }, of.good,
          of.live, rfl, ?_, rfl, finished⟩
        show board.resumeWith thread = _
        rw [resumeWith, of.threads, running]
      case h_2 => cases played
    case h_2 => cases played
  | svc stackptr read now next value =>
    simp only [play] at played
    split at played
    case h_1 number args place calls =>
      exact of.handled played fun permitted ordered stepped =>
        .svc (of.current calls) permitted ordered stepped
    case h_2 => cases played
  | returns time =>
    simp only [play] at played
    split at played
    case h_1 number args place called =>
      split_ifs at played with allowed
      obtain rfl := Option.some.inj played
      have finished := of.run.next (.returns (of.threadRuns allowed.1) (of.current called)
        (of.now ▸ allowed.2))
      rw [Option.toList_none, List.append_nil] at finished
      refine ⟨{ board with now := time, threads := board.resumeWith (.running place) }, of.good,
        of.live, rfl, ?_, of.globals, finished⟩
      show board.resumeWith (.running place) = _
      rw [resumeWith, of.threads, running]
    case h_2 => cases played

theorem Sketch.Of.playsAll (of : sketch.Of functions start board) {stimuli : List Stimulus}
    (played : sketch.playAll functions stimuli = some sketch') :
    ∃ board', sketch'.Of functions start board' := by
  induction stimuli generalizing sketch board with
  | nil =>
    obtain rfl := Option.some.inj played
    exact ⟨board, of⟩
  | cons stimulus rest ih =>
    obtain ⟨between, first, others⟩ := Option.bind_eq_some_iff.mp played
    obtain ⟨board', of'⟩ := of.plays first
    exact ih of' others

/-- The sketch of a board that has just been started. -/
def Sketch.initial (spinTask spinTaskStack : Word) (tasks : List CreateTaskArgs) (now : AbsoluteTime)
    (globals : γ) : Sketch σ γ :=
  let (live, s) := atStart spinTask spinTaskStack tasks now
  ⟨false, live, s, now, fun _ => .fresh, globals, []⟩

theorem exists_started (functions : Functions σ γ) (spinTask spinTaskStack : Word)
    (tasks : List CreateTaskArgs) (now : AbsoluteTime) (globals : γ)
    (few : tasks.length + 1 < configMaxTasks) :
    ∃ board : Board σ γ, Started board ∧
      (Sketch.initial spinTask spinTaskStack tasks now globals).Of functions board board := by
  obtain ⟨system, isStarted, good, live⟩ := exists_startedAt spinTask spinTaskStack tasks now few
  refine ⟨⟨system, now, fun _ => .fresh, globals⟩, ⟨isStarted, fun _ => rfl⟩, ?_⟩
  exact ⟨good, live, rfl, rfl, rfl, .none _⟩

end Board

section Example

open Board

attribute [local instance] PicoSdk.reference Malloc.reference

/-- The function at address 7 sleeps, any other one yields. -/
private def dozing : Functions Bool Unit where
  enter function _ := function == 7
  move sleeps _ _ :=
    (if sleeps then .call syscallSleepUntil (sleepUntilArgs 5000) fun _ => sleeps
      else .call syscallYield .zero fun _ => sleeps, ())

/-- The second task falls asleep, and is woken up half a millisecond early. -/
private def nap : List Stimulus := [
  .code 10, .code 11, .svc 0 .zero 12 13 0x10000705, .interrupt .takePendsv 13,
  .interrupt (.pendsv 0 14 15) 15,
  .code 16, .code 17, .svc 0 .zero 18 19 0x10000705, .interrupt .takePendsv 19,
  .interrupt (.pendsv 0 20 21) 21,
  .returns 22, .code 23, .svc 0 .zero 4500 4501 0x10000705, .interrupt .takePendsv 4501,
  .interrupt (.pendsv 0 4502 4503) 4504]

private def napResult : Option (Sketch Bool Unit) :=
  Sketch.playAll dozing nap (.initial 0 0 [⟨0, 7, 0, 0⟩] 0 ())

private theorem napResult_isSome : napResult.isSome := by decide +kernel

private def behind : Thread Bool → Option (Word × SyscallArgs)
  | .inCall number args _ => some (number, args)
  | _ => none

end Example

end Gkrtos
