import Gkrtos.TimeSlices

/-! The life of a task. It is created once, sleeps when it asks for it, is woken when the time
it named has come, and is killed once. Each task goes through this by itself: what is queued
where is, for every task, the state of an automaton that sees only what happens to that task,
and whatever the kernel does to the others leaves it where it is. -/
namespace Gkrtos
open KernelRefinement

/-- Where a task is in its life. One with nothing to wait for is ready, also while it runs. -/
inductive Life where
  | unborn
  | ready
  | asleep (deadline : AbsoluteTime)
  | dead
  deriving DecidableEq, Repr

/-- What can happen to a task. -/
inductive Happening where
  | created
  | sleeps (deadline : AbsoluteTime)
  | woken (now : AbsoluteTime)
  | killed
  deriving DecidableEq, Repr

/-- The automaton. A task that sleeps until the nil time goes on at once, and no task is woken
more than a systick period early. Nothing else can happen, and nothing happens to the dead. -/
def Life.after [PicoSdk] : Life → Happening → Option Life
  | .unborn, .created => some .ready
  | .ready, .sleeps deadline => some (if deadline = nilTime then .ready else .asleep deadline)
  | .asleep deadline, .woken now =>
    if 0 < PicoSdk.absoluteTimeDiffUs deadline (PicoSdk.makeTimeoutTimeUs now getSystickPeriod) then
      some .ready
    else none
  | .ready, .killed => some .dead
  | .asleep _, .killed => some .dead
  | _, _ => none

/-- What happens to a task in a handler run before the next task is chosen. -/
def Action.first (running maxPid task : Pid) : Action → List Happening
  | .svc _ number args _ =>
    if number = syscallCreateTask ∧ maxPid = task then [.created]
    else if number = syscallSleepUntil ∧ running = task then [.sleeps args.milliseconds]
    else []
  | _ => []

/-- What happens to it when the task that is chosen is one that slept. -/
def Event.wakes (task : Pid) : Event → Option Happening
  | .selected chosen now true => if chosen = task then some (.woken now) else none
  | _ => none

/-- What happens to it behind that. -/
def Action.last (running task : Pid) : Action → List Happening
  | .svc _ number args _ =>
    if number = syscallKill ∧ args.pid = task ∨ number = syscallDie ∧ running = task then [.killed]
    else []
  | _ => []

/-- What a handler run with this record does to a task. -/
def Action.happenings (action : Action) (running maxPid task : Pid) (trace : List Event) :
    List Happening :=
  action.first running maxPid task ++ trace.filterMap (Event.wakes task) ++ action.last running task

section Happenings

variable {stackptr : Word} {args : SyscallArgs} {now : AbsoluteTime} {running maxPid task : Pid}
variable {trace : List Event}

private theorem happenings_yield :
    (Action.svc stackptr syscallYield args now).happenings running maxPid task trace =
      trace.filterMap (Event.wakes task) := by
  simp [Action.happenings, Action.first, Action.last, syscallYield, syscallCreateTask,
    syscallSleepUntil, syscallKill, syscallDie]

private theorem happenings_createTask :
    (Action.svc stackptr syscallCreateTask args now).happenings running maxPid task trace =
      (if maxPid = task then [.created] else []) ++ trace.filterMap (Event.wakes task) := by
  simp [Action.happenings, Action.first, Action.last, syscallCreateTask, syscallSleepUntil,
    syscallKill, syscallDie]

private theorem happenings_sleepUntil :
    (Action.svc stackptr syscallSleepUntil args now).happenings running maxPid task trace =
      (if running = task then [.sleeps args.milliseconds] else []) ++
        trace.filterMap (Event.wakes task) := by
  simp [Action.happenings, Action.first, Action.last, syscallCreateTask, syscallSleepUntil,
    syscallKill, syscallDie]

private theorem happenings_die :
    (Action.svc stackptr syscallDie args now).happenings running maxPid task trace =
      trace.filterMap (Event.wakes task) ++ if running = task then [.killed] else [] := by
  simp [Action.happenings, Action.first, Action.last, syscallCreateTask, syscallSleepUntil,
    syscallKill, syscallDie]

private theorem happenings_kill :
    (Action.svc stackptr syscallKill args now).happenings running maxPid task trace =
      trace.filterMap (Event.wakes task) ++ if args.pid = task then [.killed] else [] := by
  simp [Action.happenings, Action.first, Action.last, syscallCreateTask, syscallSleepUntil,
    syscallKill, syscallDie]

private theorem happenings_unknown {number : Word} (unknown : syscallTaskNextTick < number) :
    (Action.svc stackptr number args now).happenings running maxPid task trace =
      trace.filterMap (Event.wakes task) := by
  have beyond (known : Word) : known ≤ syscallTaskNextTick → number ≠ known := ne_of_unknown unknown
  simp [Action.happenings, Action.first, Action.last, beyond syscallCreateTask (by decide),
    beyond syscallSleepUntil (by decide), beyond syscallKill (by decide),
    beyond syscallDie (by decide)]

private theorem happenings_interrupt (action : Action) (interrupts : action.Interrupts) :
    action.happenings running maxPid task trace = trace.filterMap (Event.wakes task) := by
  cases action with
  | svc => exact absurd interrupts id
  | systick | takePendsv | pendsv => simp [Action.happenings, Action.first, Action.last]

end Happenings

namespace Scheduler

variable [PicoSdk] {live : Finset Pid} {s s' : Scheduler} {task : Pid} {now : AbsoluteTime}

/-- What the queues say about a task. -/
def life (s : Scheduler) (task : Pid) : Life :=
  if task ∈ s.ring then .ready
  else if task ∈ s.sleepers then .asleep (s.deadline task)
  else if task < s.maxPid then .dead
  else .unborn

omit [PicoSdk] in
theorem life_dead (placed : Placed live s) (dead : task ∉ live) :
    s.life task = if task < s.maxPid then .dead else .unborn := by
  rw [life, if_neg, if_neg]
  · exact fun member => dead (placed.mem_sleepers.mp member).1
  · exact fun member => dead (placed.mem_ring.mp member).1

omit [PicoSdk] in
theorem life_ready (placed : Placed live s) (alive : task ∈ live) (awake : s.deadline task = nilTime) :
    s.life task = .ready :=
  if_pos (placed.mem_ring.mpr ⟨alive, awake⟩)

omit [PicoSdk] in
theorem life_asleep (placed : Placed live s) (alive : task ∈ live)
    (asleep : s.deadline task ≠ nilTime) : s.life task = .asleep (s.deadline task) := by
  rw [life, if_neg, if_pos (placed.mem_sleepers.mpr ⟨alive, asleep⟩)]
  exact fun member => asleep (placed.mem_ring.mp member).2

omit [PicoSdk] in
/-- The life of a task goes by whether it lives and until when it sleeps. -/
theorem life_same {live' : Finset Pid} (placed : Placed live s) (placed' : Placed live' s')
    (alive : task ∈ live' ↔ task ∈ live) (deadline : s'.deadline task = s.deadline task)
    (created : task < s'.maxPid ↔ task < s.maxPid) : s'.life task = s.life task := by
  by_cases lives : task ∈ live
  · by_cases awake : s.deadline task = nilTime
    · rw [life_ready placed lives awake, life_ready placed' (alive.mpr lives) (deadline.trans awake)]
    · rw [life_asleep placed lives awake,
        life_asleep placed' (alive.mpr lives) (deadline ▸ awake), deadline]
  · rw [life_dead placed lives, life_dead placed' (lives ∘ alive.mp)]
    simp only [created]

/-! ## Operations -/

/-- What choosing the next task does to a task. -/
def wakings (s : Scheduler) (now : AbsoluteTime) (task : Pid) : List Happening :=
  if s.due now = some task then [.woken now] else []

theorem wakes_selected :
    [Event.selected (s.choice now) now (s.due now).isSome].filterMap (Event.wakes task) =
      s.wakings now task := by
  cases due : s.due now with
  | none => simp [wakings, due, Event.wakes]
  | some first =>
    rw [choice_due due]
    by_cases same : first = task
    · simp [wakings, due, Event.wakes, same]
    · simp [wakings, due, Event.wakes, same]

theorem life_select (invariant : Invariant live s) :
    (s.wakings now task).foldlM Life.after (s.life task) = some ((s.select now).life task) := by
  have selected := invariant_select now invariant
  have deadline := s.select_deadline now task
  have created : task < (s.select now).maxPid ↔ task < s.maxPid := by simp
  rw [wakings]
  split_ifs at deadline ⊢ with woken
  · obtain ⟨first, due⟩ := due_eq_some.mp woken
    obtain ⟨alive, asleep⟩ := invariant.placed.mem_sleepers.mp (List.mem_of_head? first)
    rw [life_asleep invariant.placed alive asleep, life_ready selected.placed alive deadline]
    have wakes : Life.after (.asleep (s.deadline task)) (.woken now) = some .ready := if_pos due
    simp [wakes]
  · rw [life_same invariant.placed selected.placed Iff.rfl deadline created]
    rfl

theorem life_yield (invariant : Invariant live s) :
    (s.wakings now task).foldlM Life.after (s.life task) = some ((s.yield now).life task) :=
  life_select invariant

/-- A live task that does not sleep asks to sleep. -/
theorem life_postpone {deadline : AbsoluteTime} {read : ItemsAsTasks} {sleeper : Pid}
    (invariant : Invariant live s) (alive : sleeper ∈ live) (notSpin : sleeper ≠ 1)
    (awake : s.deadline sleeper = nilTime) :
    (if sleeper = task then [Happening.sleeps deadline] else []).foldlM Life.after (s.life task) =
      some ((s.postpone sleeper deadline read).life task) := by
  have postponed := invariant_postpone deadline read invariant alive notSpin
  have deadlines := s.postpone_deadline sleeper task deadline read
  split_ifs with same
  · subst same
    rw [if_pos rfl] at deadlines
    rw [life_ready invariant.placed alive awake]
    by_cases atOnce : deadline = nilTime
    · have sleeps : Life.after .ready (.sleeps deadline) = some .ready := congrArg some (if_pos atOnce)
      rw [life_ready postponed.placed alive (deadlines.trans atOnce)]
      simp [sleeps]
    · have asleep : (s.postpone sleeper deadline read).deadline sleeper ≠ nilTime := by
        rw [deadlines]
        exact atOnce
      have sleeps : Life.after .ready (.sleeps deadline) = some (.asleep deadline) :=
        congrArg some (if_neg atOnce)
      rw [life_asleep postponed.placed alive asleep, deadlines]
      simp [sleeps]
  · rw [if_neg (Ne.symm same)] at deadlines
    rw [life_same invariant.placed postponed.placed Iff.rfl deadlines (by simp)]
    rfl

theorem life_kill {victim : Pid} (invariant : Invariant live s) (alive : victim ∈ live)
    (notSpin : victim ≠ 1) :
    (s.wakings now task ++ if victim = task then [Happening.killed] else []).foldlM Life.after (s.life task) =
      some ((s.kill victim now).life task) := by
  have selected := invariant_select now invariant
  have killed : Invariant (live.erase victim) (s.kill victim now) :=
    invariant_kill invariant alive notSpin
  have fields := s.kill_fields victim now
  rw [List.foldlM_append, life_select invariant, Option.bind_eq_bind, Option.bind_some]
  split_ifs with same
  · subst same
    have created : victim < (s.kill victim now).maxPid := by
      simpa using invariant.numbered.created victim alive
    rw [life_dead killed.placed (Finset.notMem_erase victim live), if_pos created]
    by_cases awake : (s.select now).deadline victim = nilTime
    · rw [life_ready selected.placed alive awake]
      rfl
    · rw [life_asleep selected.placed alive awake]
      rfl
  · rw [life_same selected.placed killed.placed]
    · rfl
    · simp [Ne.symm same]
    · exact congrFun (kill_chooses s victim now).deadline task
    · simp

theorem life_createTask {args : CreateTaskArgs} {read : ItemsAsTasks} (invariant : Invariant live s)
    (room : s.maxPid < configMaxTasks) :
    (if s.maxPid = task then [Happening.created] else []).foldlM Life.after (s.life task) =
      some ((s.createTask args read).life task) := by
  have created : Invariant (insert s.maxPid live) (s.createTask args read) :=
    invariant_createTask invariant room
  have counted := (s.createTask_fields args read).1
  split_ifs with same
  · subst same
    have fresh : s.maxPid ∉ live := fun member =>
      Nat.lt_irrefl _ (invariant.numbered.created _ member)
    have awake : (s.createTask args read).deadline s.maxPid = nilTime := by
      rw [createTask_deadline]
      exact invariant.numbered.fresh s.maxPid (Nat.le_refl _)
    rw [life_dead invariant.placed fresh, if_neg (Nat.lt_irrefl _),
      life_ready created.placed (Finset.mem_insert_self _ _) awake]
    rfl
  · rw [life_same invariant.placed created.placed]
    · rfl
    · simp [Ne.symm same]
    · rw [createTask_deadline]
    · rw [counted, Nat.lt_succ_iff_lt_or_eq]
      simp [Ne.symm same]

omit [PicoSdk] in
/-- A switch moves no task between the queues. -/
theorem life_pendsv (stackptr : Word) (now now' : AbsoluteTime) :
    (s.pendsv stackptr now now').life task = s.life task := by
  have deadlines := (s.contextSwitch_pid_deadline stackptr now now').2
  unfold pendsv
  split_ifs
  · rfl
  · have deadline : (s.contextSwitch stackptr now now').deadline task = s.deadline task :=
      congrFun deadlines task
    unfold life
    rw [← deadline]
    rfl

/-! ## Steps -/

theorem Chooses.wakes (chooses : s.Chooses now s') (quiet : s.trace = []) :
    s'.trace.filterMap (Event.wakes task) = s.wakings now task := by
  rw [chooses.trace, quiet, List.nil_append, wakes_selected]

/-- A legal handler run, by which the caller falls asleep only if it is awake, does to each
task what the automaton allows. -/
theorem life_step {action : Action} (invariant : Invariant live s) (legal : s.Legal live action)
    (awake : ∀ stackptr args now, action = .svc stackptr syscallSleepUntil args now →
      s.deadline s.running = nilTime) (quiet : s.trace = []) :
    (action.happenings s.running s.maxPid task (s.handle action).trace).foldlM Life.after
      (s.life task) = some ((s.handle action).life task) := by
  cases action with
  | svc stackptr number args now =>
    rcases legal with rfl | ⟨rfl, room⟩ | ⟨rfl, alive, notSpin⟩ | ⟨rfl, alive, notSpin⟩ |
      ⟨rfl, alive, notSpin⟩ | unknown
    · have chooses : s.Chooses now (s.handle (.svc stackptr syscallYield args now)) :=
        yield_chooses s now
      rw [happenings_yield, chooses.wakes quiet]
      exact life_yield invariant
    · have still : (s.handle (.svc stackptr syscallCreateTask args now)).trace = [] :=
        (createTask_fields s _ _).2.2.2.2.2.trans quiet
      rw [happenings_createTask, still, List.filterMap_nil, List.append_nil]
      exact life_createTask invariant room
    · have postponed := invariant_postpone args.milliseconds args.itemsAsTasks invariant alive notSpin
      have chooses : (s.postpone s.running args.milliseconds args.itemsAsTasks).Chooses now
          (s.handle (.svc stackptr syscallSleepUntil args now)) := yield_chooses _ now
      have still : (s.postpone s.running args.milliseconds args.itemsAsTasks).trace = [] :=
        (postpone_fields s _ _ _).2.2.2.2.2.1.trans quiet
      rw [happenings_sleepUntil, chooses.wakes still, List.foldlM_append,
        life_postpone invariant alive notSpin (awake _ _ _ rfl)]
      exact life_yield postponed
    · have dies : s.handle (.svc stackptr syscallDie args now) = s.kill s.running now :=
        congrArg (s.kill · now) (invariant.pid alive)
      rw [happenings_die, dies, (kill_chooses s s.running now).wakes quiet]
      exact life_kill invariant alive notSpin
    · have chooses : s.Chooses now (s.handle (.svc stackptr syscallKill args now)) :=
        kill_chooses s args.pid now
      rw [happenings_kill, chooses.wakes quiet]
      exact life_kill invariant alive notSpin
    · have nothing : s.handle (.svc stackptr number args now) = s := syscall_unknown unknown s args now
      rw [happenings_unknown unknown, nothing, quiet]
      rfl
  | systick stackptr now now' now'' =>
    rw [happenings_interrupt (.systick stackptr now now' now'') trivial]
    show (List.filterMap _ (s.systick now now' now'').trace).foldlM _ _ =
      some ((s.systick now now' now'').life task)
    unfold systick
    split_ifs
    · rw [(yield_chooses s now'').wakes quiet]
      exact life_yield invariant
    · rw [quiet]
      rfl
  | takePendsv =>
    rw [happenings_interrupt .takePendsv trivial]
    show (List.filterMap _ s.trace).foldlM _ _ = _
    rw [quiet]
    rfl
  | pendsv stackptr now now' =>
    have unwoken : (s.pendsv stackptr now now').trace.filterMap (Event.wakes task) = [] := by
      rw [List.filterMap_eq_nil_iff]
      intro event member
      cases event with
      | selected chosen time woken => exact absurd member (not_selected_pendsv quiet)
      | dispatched pid => rfl
    rw [happenings_interrupt (.pendsv stackptr now now') trivial]
    show (List.filterMap _ (s.pendsv stackptr now now').trace).foldlM _ _ =
      some ((s.pendsv stackptr now now').life task)
    rw [unwoken, life_pendsv]
    rfl

end Scheduler

/-! ## Runs -/

/-- What the queues of the kernel and the counter of pids say about a task. -/
def Kernel.life (kernel : Kernel) (task : Pid) : Life :=
  if task ∈ kernel.unscheduled then .ready
  else if task ∈ kernel.scheduled then .asleep (kernel.nextRunTime task)
  else if task < kernel.currentMaxPid then .dead
  else .unborn

section Runs

variable [PicoSdk] [Malloc] {mask : InterruptMask} {system final : System} {s : Scheduler}
variable {task : Pid}

/-- What happens to a task in the run that takes these steps, in order. -/
def System.happenings (task : Pid) : List Action → System → List Happening
  | [], _ => []
  | action :: rest, system => (system.step action).elim [] fun next =>
    action.happenings system.kernel.running system.kernel.currentMaxPid task next.kernel.trace ++
      next.happenings task rest

omit [PicoSdk] [Malloc] in
theorem life_of_good (good : Good mask system s) : system.kernel.life task = s.life task :=
  congrArg (Scheduler.life · task) good.outside.shows

theorem life_permitted {action : Action} {next : System} (reachable : system.Reachable System.Legal)
    (permitted : system.Permitted action) (stepped : system.step action = some next) :
    (action.happenings system.kernel.running system.kernel.currentMaxPid task
      next.kernel.trace).foldlM Life.after (system.kernel.life task) =
        some (next.kernel.life task) := by
  obtain ⟨legal, mayTake⟩ := permitted
  obtain ⟨mask, s, good⟩ := reachable_good reachable
  have good' := (good_step good legal stepped).1
  have counter : system.kernel.currentMaxPid = s.maxPid :=
    congrArg Scheduler.maxPid good.outside.shows
  -- who asks to sleep runs, and no switch has been requested
  have awake : ∀ stackptr args now, action = .svc stackptr syscallSleepUntil args now →
      s.deadline s.running = nilTime := by
    rintro stackptr args now rfl
    obtain ⟨-, quiet, untaken⟩ := mayTake
    obtain ⟨mask', s', good'', -, -, awake⟩ := reachable_runs_awake reachable quiet untaken
    obtain rfl : s = s' := good.outside.shows.symm.trans good''.outside.shows
    exact awake
  have legal' : ({ s with trace := [] } : Scheduler).Legal system.live action := by
    have legal' := (legal_iff good).mp legal
    cases action with
    | svc | systick | takePendsv | pendsv => exact legal'
  rw [life_of_good good, life_of_good good', good.running, counter, good'.trace]
  exact Scheduler.life_step (good.invariant.of_record [] s.requested s.taken) legal' awake rfl

/-- In every run, what happens to a task takes it through its life. -/
theorem life_cycle {actions : List Action} (reachable : system.Reachable System.Permitted)
    (run : System.Runs System.Permitted actions system final) :
    (system.happenings task actions).foldlM Life.after (system.kernel.life task) =
      some (final.kernel.life task) := by
  replace reachable : system.Reachable System.Legal := reachable.imp fun _ _ => And.left
  induction actions generalizing system with
  | nil =>
    obtain rfl : system = final := run
    rfl
  | cons action rest ih =>
    obtain ⟨permitted, next, stepped, run⟩ := run
    have reached : next.Reachable System.Legal := reachable.step permitted.1 stepped
    rw [System.happenings, stepped, Option.elim_some, List.foldlM_append,
      life_permitted reachable permitted stepped, Option.bind_eq_bind, Option.bind_some]
    exact ih run reached

end Runs

section Example

attribute [local instance] PicoSdk.reference Malloc.reference

/-- Task 3 falls asleep, wakes up in time and is killed by task 2. -/
private def lifeOfThree : List Action := [
  .svc 0 syscallYield .zero 10, .takePendsv, .pendsv 0 11 11,
  .svc 0 syscallSleepUntil { SyscallArgs.zero with milliseconds := 9000 } 20,
  .takePendsv, .pendsv 0 21 21,
  .svc 0 syscallYield .zero 9500, .takePendsv, .pendsv 0 9501 9501,
  .svc 0 syscallYield .zero 9600, .takePendsv, .pendsv 0 9601 9601,
  .svc 0 syscallKill { SyscallArgs.zero with pid := 3 } 9700]

private def born : Finset Pid × Scheduler :=
  atStart 0 0 (List.replicate 2 SyscallArgs.zero.createTask) 0

private def lived : Option (InterruptMask × Finset Pid × Scheduler) :=
  Scheduler.run Scheduler.Permitted lifeOfThree (false, born)

private theorem lived_eq : lived.map (fun (_, _, s) => s.life 3) = some .dead := by decide +kernel

theorem life_cycle_example : ∃ system final : System, system.Reachable System.Permitted ∧
    System.Runs System.Permitted lifeOfThree system final ∧ system.kernel.life 3 = .ready ∧
      final.kernel.life 3 = .dead ∧
        (system.happenings 3 lifeOfThree).foldlM Life.after .ready = some .dead := by
  obtain ⟨⟨mask, live, s⟩, ran, killed⟩ := Option.map_eq_some_iff.mp lived_eq
  obtain ⟨system, isStarted, good, alive⟩ :=
    exists_startedAt 0 0 (List.replicate 2 SyscallArgs.zero.createTask) 0 (by decide)
  have good : Good false system born.2 := good
  have alive : system.live = born.1 := alive
  have ran : Scheduler.run Scheduler.Permitted lifeOfThree (false, system.live, born.2) =
      some (mask, live, s) := by
    rw [alive]
    exact ran
  obtain ⟨final, run, settled, -⟩ := run_simulates permitted_mirrors good ran
  have reachable : system.Reachable System.Permitted :=
    ⟨system, System.started_iff.mpr ⟨0, isStarted⟩, .refl⟩
  have ready : system.kernel.life 3 = .ready := by
    rw [life_of_good good]
    decide +kernel
  have dead : final.kernel.life 3 = .dead := (life_of_good settled).trans killed
  refine ⟨system, final, reachable, run, ready, dead, ?_⟩
  rw [← ready, ← dead]
  exact life_cycle reachable run

end Example

end Gkrtos
