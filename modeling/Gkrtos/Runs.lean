import Mathlib.Data.Finset.Lattice.Lemmas
import Gkrtos.HandlerRefinement

/-! Runs of the kernel. After `gkrtos_init`, any creations by `main` and
`gkrtos_start` the kernel stands for a scheduler with the invariant, in which
the spin task runs; from there every legal step is one of the scheduler. A
property of the scheduler that holds at the start and is kept by its steps
therefore holds in every reachable state of the kernel. -/
namespace Gkrtos.KernelRefinement
open Stateful ListRefinement PicoSdk Scheduler

variable {live : Finset Pid} {kernel : Kernel} {s : Scheduler}

/-! ## The start of a run -/

/-- No task exists yet. -/
def noTasks : Scheduler where
  table := fun _ => Task.zero
  ring := []
  sleepers := []
  maxPid := 1
  running := 0
  queued := 0
  requested := false
  taken := false
  trace := []

theorem noTasks_placed : Placed ∅ noTasks :=
  ⟨fun _ => rfl, fun _ => rfl⟩

theorem noTasks_numbered : Numbered ∅ noTasks :=
  ⟨by simp, by decide, fun task bound => by simp [noTasks] at bound; simp [bound, noTasks, pid, Task.zero],
    fun _ _ => rfl, by decide, by decide⟩

/-- The scheduler when the spin task starts running. -/
def launched (s : Scheduler) (now : AbsoluteTime) : Scheduler :=
  { (s.change 1 fun task => { task with taskStatus := .running }).change 1 fun task => { task with
      accounting := { task.accounting with ctxSwitchTime := now } } with
    running := 1
    queued := 1 }

theorem launched_invariant (now : AbsoluteTime) (invariant : Invariant live s) :
    Invariant live (launched s now) := by
  have spin := invariant.numbered.created 1 invariant.spin
  have started := invariant_change (fun task => { task with taskStatus := .running })
    invariant spin rfl rfl
  have timed := invariant_change (fun task => { task with
    accounting := { task.accounting with ctxSwitchTime := now } }) started spin rfl rfl
  obtain ⟨⟨ring, sleepers⟩, ⟨created, bound, pids, fresh, _, _⟩, spin', awake⟩ := timed
  exact ⟨⟨ring, sleepers⟩, ⟨created, bound, pids, fresh, spin, spin⟩, spin', awake⟩

section Start

variable [PicoSdk]

/-- `main` creates its tasks one after the other. -/
def created : List CreateTaskArgs → Finset Pid → Scheduler → Finset Pid × Scheduler
  | [], live, s => (live, s)
  | args :: rest, live, s => created rest (insert s.maxPid live) (s.createTask args .zero)

theorem created_invariant (tasks : List CreateTaskArgs) (invariant : Invariant live s)
    (room : s.maxPid + tasks.length ≤ configMaxTasks) :
    Invariant (created tasks live s).1 (created tasks live s).2 := by
  induction tasks generalizing s live with
  | nil => exact invariant
  | cons args rest ih =>
    rw [List.length_cons] at room
    have maxPid : (s.createTask args .zero).maxPid = s.maxPid + 1 := (enqueue_fields _ _ _).2.1
    refine ih (invariant_createTask invariant ?_) ?_
    · exact Nat.lt_of_lt_of_le (Nat.lt_add_of_pos_right (Nat.succ_pos _)) room
    · rw [maxPid, Nat.add_right_comm]
      exact room

/-- Creations ask for no switch, and put no task to sleep. -/
theorem created_idle (tasks : List CreateTaskArgs) (invariant : Invariant live s)
    (room : s.maxPid + tasks.length ≤ configMaxTasks) :
    (created tasks live s).2.requested = s.requested ∧
      (created tasks live s).2.taken = s.taken ∧
      (created tasks live s).2.sleepers = s.sleepers := by
  induction tasks generalizing live s with
  | nil => exact ⟨rfl, rfl, rfl⟩
  | cons args rest ih =>
    rw [List.length_cons] at room
    obtain ⟨_, maxPid, _, _, requested, taken, _⟩ := enqueue_fields
      ({ s with maxPid := s.maxPid + 1 }.change s.maxPid (newborn s.maxPid args)) s.maxPid .zero
    have fits : s.maxPid < configMaxTasks :=
      Nat.lt_of_lt_of_le (Nat.lt_add_of_pos_right (Nat.succ_pos _)) room
    have room' : (s.createTask args .zero).maxPid + rest.length ≤ configMaxTasks := by
      rw [createTask, maxPid]
      exact (Nat.add_right_comm _ _ _).trans_le room
    obtain ⟨requested', taken', sleepers⟩ := ih (invariant_createTask invariant fits) room'
    exact ⟨requested'.trans requested, taken'.trans taken,
      sleepers.trans (createTask_sleepers invariant.numbered)⟩

/-- No task that was created has been marked as running. -/
def NoneRunning (s : Scheduler) : Prop :=
  ∀ task, 0 < task → task < s.maxPid → s.status task ≠ .running

theorem noneRunning_createTask {args : CreateTaskArgs} {read : ItemsAsTasks} (none : NoneRunning s) :
    NoneRunning (s.createTask args read) := by
  obtain ⟨table, maxPid, -⟩ := enqueue_fields
    ({ s with maxPid := s.maxPid + 1 }.change s.maxPid (newborn s.maxPid args)) s.maxPid read
  intro task positive bound
  rw [createTask, maxPid] at bound
  rw [createTask, status, table, ← status, change_status]
  split_ifs with newest
  · simp [newborn]
  · exact none task positive (Nat.lt_of_le_of_ne (Nat.le_of_lt_succ bound) newest)

theorem noneRunning_created (tasks : List CreateTaskArgs) (none : NoneRunning s) :
    NoneRunning (created tasks live s).2 := by
  induction tasks generalizing live s with
  | nil => exact none
  | cons args rest ih => exact ih (noneRunning_createTask none)

/-- The live tasks and the scheduler at the start of a run. -/
def atStart (spinTask spinTaskStack : Word) (tasks : List CreateTaskArgs) (now : AbsoluteTime) :
    Finset Pid × Scheduler :=
  let (live, s) := created tasks {1}
    (noTasks.createTask ⟨taskingPriorityUserBase, spinTask, spinTaskStack, 0⟩ .zero)
  (live, launched s now)

theorem spinning_invariant (args : CreateTaskArgs) : Invariant {1} (noTasks.createTask args .zero) :=
  ⟨placed_createTask noTasks_placed noTasks_numbered,
    numbered_createTask noTasks_numbered (by decide), by simp, by rw [createTask_deadline]; rfl⟩

theorem spinning_room {tasks : List CreateTaskArgs} (args : CreateTaskArgs)
    (few : tasks.length + 1 < configMaxTasks) :
    (noTasks.createTask args .zero).maxPid + tasks.length ≤ configMaxTasks := by
  have maxPid : (noTasks.createTask args .zero).maxPid = 2 := (enqueue_fields _ _ _).2.1
  rw [maxPid, Nat.add_comm]
  exact few

/-- The state a run starts in: the spin task runs and is the only one marked so,
no switch is under way, and no task sleeps. -/
structure Initial (live : Finset Pid) (s : Scheduler) : Prop where
  invariant : Invariant live s
  running : s.running = 1
  queued : s.queued = 1
  requested : s.requested = false
  taken : s.taken = false
  sleepers : s.sleepers = []
  spins : s.status 1 = .running
  others : ∀ task, 0 < task → task < s.maxPid → s.status task = .running → task = 1

theorem initial_atStart (spinTask spinTaskStack : Word) (tasks : List CreateTaskArgs)
    (now : AbsoluteTime) (few : tasks.length + 1 < configMaxTasks) :
    Initial (atStart spinTask spinTaskStack tasks now).1 (atStart spinTask spinTaskStack tasks now).2 := by
  have invariant := spinning_invariant ⟨taskingPriorityUserBase, spinTask, spinTaskStack, 0⟩
  have room := spinning_room ⟨taskingPriorityUserBase, spinTask, spinTaskStack, 0⟩ few
  obtain ⟨requested, taken, sleepers⟩ := created_idle tasks invariant room
  obtain ⟨_, _, _, _, requested', taken', _⟩ := enqueue_fields ({ noTasks with maxPid := 2 }.change 1
    (newborn 1 ⟨taskingPriorityUserBase, spinTask, spinTaskStack, 0⟩)) 1 .zero
  have none : NoneRunning (created tasks {1} (noTasks.createTask
      ⟨taskingPriorityUserBase, spinTask, spinTaskStack, 0⟩ .zero)).2 := by
    apply noneRunning_created
    apply noneRunning_createTask
    intro task positive bound
    exact absurd bound (Nat.not_lt.mpr positive)
  refine ⟨launched_invariant now (created_invariant tasks invariant room), rfl, rfl,
    requested.trans requested', taken.trans taken',
    sleepers.trans (createTask_sleepers noTasks_numbered), ?_, ?_⟩
  · simp [atStart, launched, status, change_table]
  · intro task positive bound active
    by_contra different
    apply none task positive bound
    rw [← active]
    simp [atStart, launched, status, change_table, different]

end Start

/-! ## Bringing the kernel up -/

private theorem wellFormed_initial : WellFormed (ListStore.initial : ListStore TaskPtr) := by
  refine ⟨fun _ => [], ⟨?_, ?_, .nil, by simp [ListStore.initial]⟩⟩
  · exact fun list valid => absurd valid (Nat.not_lt_zero list)
  · exact fun list valid => absurd valid (Nat.not_lt_zero list)

theorem start_returns (now : AbsoluteTime) (outside : Outside false kernel s) :
    Returns (start now) kernel () (Outside false · (launched s now)) := by
  obtain ⟨sound, rfl, free, enabled, log⟩ := outside
  have core := sound.core
  refine returns_of_run (by
    simp [start, initSystickHandler, setPriority, storeCore, storeTask, configMaxTasks]; rfl) ?_
  refine ⟨⟨sound.heap, sound.scheduled, sound.unscheduled, sound.apart, sound.core, ?_⟩, ?_, free,
    enabled, log⟩
  · simp [sound.priorities.2]
  · simp [view, launched, Scheduler.change, core]

variable [PicoSdk] [Malloc]

/-- The kernel inside `gkrtos_init`, before the spin task is created. -/
private def booted (lists : ListStore TaskPtr) : Kernel := { Kernel.initial with
  scheduledQueue := 0
  unscheduledQueue := 1
  cores := fun core => if core < archNumCores then ⟨0, 0⟩ else ⟨0, 0⟩
  lists
  priority := Function.update (Function.update (fun _ => 0) .pendsv pendsvPriority) .svcall
    svcallPriority }

/-- `gkrtos_init` creates the spin task. -/
theorem init_returns (spinTask spinTaskStack : Word) :
    Returns (init spinTask spinTaskStack) Kernel.initial .success (Outside false ·
      (noTasks.createTask ⟨taskingPriorityUserBase, spinTask, spinTaskStack, 0⟩ .zero)) := by
  obtain ⟨lists, first, wellFormed, count, empty, -⟩ := listNew_spec wellFormed_initial
  obtain ⟨lists', second, wellFormed', count', empty', others⟩ := listNew_spec wellFormed
  have scheduled : (ListStore.initial : ListStore TaskPtr).lists = 0 := rfl
  rw [scheduled] at first count empty
  rw [count] at second count' empty' others
  have outside : Outside false (booted lists') noTasks := by
    refine ⟨⟨wellFormed', ?_, ?_, Nat.zero_ne_one, rfl, Nat.zero_le _, rfl⟩, ?_, rfl, rfl, .nil,
      by simp [booted, Kernel.initial]⟩
    · exact count' ▸ Nat.zero_lt_two
    · exact count' ▸ Nat.one_lt_two
    · have scheduledEmpty : contents lists' 0 = [] := (others 0 Nat.zero_lt_one).trans empty
      have unscheduledEmpty : contents lists' 1 = [] := empty'
      simp [view, booted, Kernel.initial, noTasks, scheduledEmpty, unscheduledEmpty]
  let create : KernelM Result := do
    let _ ← internalSyscall 0 syscallCreateTask
      { SyscallArgs.zero with
        createTask := ⟨taskingPriorityUserBase, spinTask, spinTaskStack, 0⟩ } 0
    return Result.success
  have run : init spinTask spinTaskStack Kernel.initial = create (booted lists') := by
    simp [create, init, criticalSectionInit, initPendsvHandler, initSvcallHandler,
      internalTaskingInit, setPriority, criticalSectionExit_eq, taskingGetCurrentTask, onLists,
      Kernel.initial, booted, first, second]
  have created := createTask_simulates ⟨taskingPriorityUserBase, spinTask, spinTaskStack, 0⟩ .zero
    (booted lists') noTasks outside ⟨by decide, by simp [noTasks]⟩
  have returned : Returns create (booted lists') .success _ :=
    returns_bind created fun _ outside => returns_pure outside
  obtain ⟨kernel, ran, outside⟩ := returned
  exact ⟨kernel, run.trans ran, outside⟩

theorem createTasks_returns (tasks : List CreateTaskArgs) (outside : Outside false kernel s)
    (invariant : Invariant live s) (room : s.maxPid + tasks.length ≤ configMaxTasks) :
    ∃ pids, Returns (createTasks tasks) kernel pids (Outside false · (created tasks live s).2) ∧
      (created tasks live s).1 = live ∪ (pids.map BitVec.toNat).toFinset := by
  induction tasks generalizing kernel s live with
  | nil => exact ⟨[], returns_pure outside, by simp [created]⟩
  | cons args rest ih =>
    rw [List.length_cons] at room
    have fits : s.maxPid < configMaxTasks :=
      Nat.lt_of_lt_of_le (Nat.lt_add_of_pos_right (Nat.succ_pos _)) room
    have create := createTask_simulates args .zero kernel s outside ⟨fits, sleepers_inTable invariant⟩
    obtain ⟨kernel', run, outside'⟩ := create
    have maxPid : (s.createTask args .zero).maxPid = s.maxPid + 1 := (enqueue_fields _ _ _).2.1
    obtain ⟨pids, finish, live'⟩ := ih outside' (invariant_createTask invariant fits)
      (by rw [maxPid, Nat.add_right_comm]; exact room)
    refine ⟨BitVec.ofNat 32 s.maxPid :: pids, ?_, ?_⟩
    · have running : Returns taskingGetCurrentTask kernel s.running (· = kernel) :=
        ⟨kernel, congrArg (EStateM.Result.ok · kernel) (congrArg Scheduler.running outside.shows), rfl⟩
      have call : Returns (internalSyscall s.running syscallCreateTask ⟨0, 0, args, .zero⟩ 0) kernel
          (BitVec.ofNat 32 s.maxPid) (· = kernel') := ⟨kernel', run, rfl⟩
      refine returns_bind running ?_
      rintro _ rfl
      refine returns_bind call ?_
      rintro _ rfl
      exact returns_bind finish fun kernel finished => returns_pure finished
    · have head : (BitVec.ofNat 32 s.maxPid).toNat = s.maxPid := by
        rw [BitVec.toNat_ofNat, Nat.mod_eq_of_lt (Nat.lt_trans fits (by decide))]
      rw [created, live', List.map_cons, head, List.toFinset_cons, Finset.union_insert,
        Finset.insert_union]

theorem launch_returns (spinTask spinTaskStack : Word) (tasks : List CreateTaskArgs)
    (now : AbsoluteTime) (few : tasks.length + 1 < configMaxTasks) :
    ∃ pids kernel, launch spinTask spinTaskStack tasks now Kernel.initial = .ok pids kernel ∧
      Outside false kernel (atStart spinTask spinTaskStack tasks now).2 ∧
      insert 1 (pids.map BitVec.toNat).toFinset = (atStart spinTask spinTaskStack tasks now).1 := by
  obtain ⟨kernel, initialised, outside⟩ := init_returns spinTask spinTaskStack
  obtain ⟨pids, ⟨kernel', creation, outside'⟩, live⟩ :=
    createTasks_returns tasks outside (spinning_invariant _) (spinning_room _ few)
  obtain ⟨kernel'', started, outside''⟩ := start_returns now outside'
  refine ⟨pids, kernel'', by simp [launch, initialised, creation, started], outside'', ?_⟩
  rw [atStart, live, Finset.singleton_union]

/-- Every start of the kernel is one of these. -/
theorem started_good {system : System} (started : system.Started) :
    ∃ s, Good false system s ∧ Initial system.live s := by
  obtain ⟨spinTask, spinTaskStack, tasks, now, pids, few, run, live⟩ := started
  obtain ⟨pids', kernel, run', outside, live'⟩ := launch_returns spinTask spinTaskStack tasks now few
  rw [run, EStateM.Result.ok.injEq] at run'
  obtain ⟨rfl, rfl⟩ := run'
  have initial := initial_atStart spinTask spinTaskStack tasks now few
  rw [← live', ← live] at initial
  exact ⟨_, ⟨outside, initial.invariant⟩, initial⟩

theorem startedWith_good {tasks : List CreateTaskArgs} {now : AbsoluteTime} {system : System}
    (started : system.StartedWith tasks now) : ∃ spinTask spinTaskStack,
      Good false system (atStart spinTask spinTaskStack tasks now).2 ∧
        system.live = (atStart spinTask spinTaskStack tasks now).1 := by
  obtain ⟨spinTask, spinTaskStack, pids, few, run, live⟩ := started
  obtain ⟨pids', kernel, run', outside, live'⟩ := launch_returns spinTask spinTaskStack tasks now few
  rw [run, EStateM.Result.ok.injEq] at run'
  obtain ⟨rfl, rfl⟩ := run'
  have alive := live.trans live'
  have initial := initial_atStart spinTask spinTaskStack tasks now few
  rw [← alive] at initial
  exact ⟨spinTask, spinTaskStack, ⟨outside, initial.invariant⟩, alive⟩

/-- The kernel can be started at any time. -/
theorem exists_startedAt (spinTask spinTaskStack : Word) (tasks : List CreateTaskArgs)
    (now : AbsoluteTime) (few : tasks.length + 1 < configMaxTasks) :
    ∃ started : System, started.StartedAt now ∧
      Good false started (atStart spinTask spinTaskStack tasks now).2 ∧
      started.live = (atStart spinTask spinTaskStack tasks now).1 := by
  obtain ⟨pids, kernel, launched, outside, live⟩ :=
    launch_returns spinTask spinTaskStack tasks now few
  have initial := initial_atStart spinTask spinTaskStack tasks now few
  rw [← live] at initial
  exact ⟨⟨kernel, _⟩, ⟨spinTask, spinTaskStack, tasks, pids, few, launched, rfl⟩,
    ⟨outside, initial.invariant⟩, live⟩

/-! ## Runs -/

section Induction

variable {allowed : System → Action → Prop}
variable (property : InterruptMask → Finset Pid → Scheduler → Prop)

/-- The run lemma: what every allowed step of the scheduler keeps is kept, with
the invariant, by every run. -/
theorem run_induction {mask : InterruptMask} {system final : System}
    (legal : ∀ system action, allowed system action → system.Legal action)
    (step : ∀ mask system s action, Good mask system s → allowed system action →
      property mask system.live s →
      property (s.maskAfter mask action) (s.liveAfter system.live action) (s.step action))
    (good : Good mask system s) (holds : property mask system.live s)
    (run : Relation.ReflTransGen (System.Step allowed) system final) :
    ∃ mask s, Good mask final s ∧ property mask final.live s := by
  induction run with
  | refl => exact ⟨mask, s, good, holds⟩
  | tail _ last ih =>
    obtain ⟨mask, s, good, holds⟩ := ih
    obtain ⟨action, isAllowed, stepped⟩ := last
    obtain ⟨next, stepped', good', live⟩ := step_simulates good (legal _ action isAllowed)
    rw [stepped, Option.some.injEq] at stepped'
    subst stepped'
    exact ⟨_, _, good', live ▸ step mask _ s action good isAllowed holds⟩

/-- What also holds at the start holds in every reachable state. -/
theorem reachable_induction {system : System}
    (legal : ∀ system action, allowed system action → system.Legal action)
    (start : ∀ live s, Initial live s → property false live s)
    (step : ∀ mask system s action, Good mask system s → allowed system action →
      property mask system.live s →
      property (s.maskAfter mask action) (s.liveAfter system.live action) (s.step action))
    (reachable : system.Reachable allowed) :
    ∃ mask s, Good mask system s ∧ property mask system.live s := by
  obtain ⟨started, isStarted, run⟩ := reachable
  obtain ⟨s, good, initial⟩ := started_good isStarted
  exact run_induction property legal step good (start _ s initial) run

end Induction

theorem reachable_good {system : System} (reachable : system.Reachable System.Legal) :
    ∃ mask s, Good mask system s := by
  obtain ⟨mask, s, good, -⟩ := reachable_induction (fun _ _ _ => True)
    (fun _ _ legal => legal) (fun _ _ _ => trivial) (fun _ _ _ _ _ _ _ => trivial) reachable
  exact ⟨mask, s, good⟩

section Execution

variable {allowed : System → Action → Prop}
variable {mirror : InterruptMask → Finset Pid → Scheduler → Action → Prop}
variable [∀ mask live s action, Decidable (mirror mask live s action)]

/-- A run of the scheduler is a run of the kernel. -/
theorem run_simulates {mask mask' : InterruptMask} {live' : Finset Pid} {system : System}
    {s' : Scheduler} {actions : List Action}
    (mirrors : ∀ mask system s action, Good mask system s → mirror mask system.live s action →
      allowed system action ∧ system.Legal action)
    (good : Good mask system s)
    (ran : Scheduler.run mirror actions (mask, system.live, s) = some (mask', live', s')) :
    ∃ final, System.Runs allowed actions system final ∧ Good mask' final s' ∧
      final.live = live' := by
  induction actions generalizing mask system s with
  | nil =>
    obtain ⟨rfl, rfl, rfl⟩ : mask = mask' ∧ system.live = live' ∧ s = s' := by
      simpa [Scheduler.run] using ran
    exact ⟨system, rfl, good, rfl⟩
  | cons action rest ih =>
    rw [Scheduler.run] at ran
    split_ifs at ran with isAllowed
    obtain ⟨isAllowed', legal⟩ := mirrors mask system s action good isAllowed
    obtain ⟨next, stepped, good', live⟩ := step_simulates good legal
    rw [← live] at ran
    obtain ⟨final, steps, settled⟩ := ih good' ran
    exact ⟨final, ⟨isAllowed', next, stepped, steps⟩, settled⟩

/-- So is one from a start of the kernel. -/
theorem reachedBy_of_run (allowed : System → Action → Prop)
    {state : InterruptMask × Finset Pid × Scheduler} {actions : List Action}
    (spinTask spinTaskStack : Word) (tasks : List CreateTaskArgs) (now : AbsoluteTime)
    (mirrors : ∀ mask system s action, Good mask system s → mirror mask system.live s action →
      allowed system action ∧ system.Legal action)
    (few : tasks.length + 1 < configMaxTasks)
    (ran : Scheduler.run mirror actions (false, atStart spinTask spinTaskStack tasks now) =
      some state) :
    ∃ final : System, final.ReachedBy allowed actions ∧ Good state.1 final state.2.2 ∧
      final.live = state.2.1 := by
  obtain ⟨started, isStarted, good, live⟩ := exists_startedAt spinTask spinTaskStack tasks now few
  obtain ⟨mask', live', s'⟩ := state
  rw [← Prod.mk.eta (p := atStart spinTask spinTaskStack tasks now), ← live] at ran
  obtain ⟨final, steps, settled⟩ := run_simulates mirrors good ran
  exact ⟨final, ⟨started, System.started_iff.mpr ⟨now, isStarted⟩, steps⟩, settled⟩

end Execution

/-! ## Refinement -/

section Refinement

variable {system final : System} {actions : List Action}

/-- What the abstract scheduler has of a system. -/
def shown (system : System) : InterruptMask × Finset Pid × Scheduler :=
  (system.kernel.primask, system.live, view system.kernel)

omit [PicoSdk] [Malloc] in
theorem shown_of_good {mask : InterruptMask} (good : Good mask system s) :
    shown system = (mask, system.live, s) := by
  rw [shown, good.outside.mask, good.outside.shows]

/-- A run of the kernel is a run of the scheduler. -/
theorem run_simulated {mask : InterruptMask} (good : Good mask system s)
    (ran : System.Runs System.Permitted actions system final) :
    Scheduler.run Permitted actions (mask, system.live, s) = some (shown final) := by
  induction actions generalizing mask system s with
  | nil =>
    obtain rfl : system = final := ran
    rw [Scheduler.run, shown_of_good good]
  | cons action rest ih =>
    obtain ⟨permitted, next, stepped, ran⟩ := ran
    obtain ⟨good', live⟩ := good_step good permitted.1 stepped
    rw [Scheduler.run, if_pos ((permitted_iff good).mp permitted), ← live]
    exact ih good' ran

/-- The kernel with its lists in the heap, its critical section and its system calls is, step
for step, the scheduler that has two queues of pids: each takes the steps the other takes, and
shows the same behind them. -/
theorem kernel_refines_scheduler {state : InterruptMask × Finset Pid × Scheduler}
    (reachable : system.Reachable System.Permitted) :
    (∃ final, System.Runs System.Permitted actions system final ∧ shown final = state) ↔
      Scheduler.run Permitted actions (shown system) = some state := by
  obtain ⟨mask, s, good⟩ := reachable_good (reachable.imp fun _ _ => And.left)
  rw [shown_of_good good]
  constructor
  · rintro ⟨final, ran, rfl⟩
    exact run_simulated good ran
  · intro ran
    obtain ⟨final, steps, good', live⟩ := run_simulates permitted_mirrors good ran
    refine ⟨final, steps, ?_⟩
    rw [shown_of_good good', live]

end Refinement

end Gkrtos.KernelRefinement

namespace Gkrtos
open KernelRefinement

section Example

attribute [local instance] PicoSdk.reference Malloc.reference

/-- The spin task yields to the task created last. -/
private def handOverRun : List Action := [.svc 0 syscallYield .zero 10, .takePendsv, .pendsv 0 11 11]

private def begun : Finset Pid × Scheduler :=
  atStart 0 0 (List.replicate 2 SyscallArgs.zero.createTask) 0

private def handedOver : Option (InterruptMask × Finset Pid × Scheduler) :=
  Scheduler.run Scheduler.Permitted handOverRun (false, begun)

private theorem handedOver_eq :
    handedOver.map (fun (_, _, s) => (s.running, s.ring)) = some (3, [3, 2, 1]) := by
  decide +kernel

theorem kernel_refines_scheduler_example : ∃ system final : System,
    system.Reachable System.Permitted ∧ System.Runs System.Permitted handOverRun system final ∧
      final.kernel.running = 3 ∧ final.kernel.unscheduled = [3, 2, 1] := by
  obtain ⟨system, isStarted, good, alive⟩ :=
    exists_startedAt 0 0 (List.replicate 2 SyscallArgs.zero.createTask) 0 (by decide)
  have reachable : system.Reachable System.Permitted :=
    ⟨system, System.started_iff.mpr ⟨0, isStarted⟩, .refl⟩
  have begins : shown system = (false, begun) := by
    rw [shown_of_good good, alive]
    rfl
  obtain ⟨state, ran, fields⟩ := Option.map_eq_some_iff.mp handedOver_eq
  rw [handedOver, ← begins] at ran
  obtain ⟨final, run, rfl⟩ := (kernel_refines_scheduler reachable).mpr ran
  obtain ⟨running, ring⟩ := Prod.ext_iff.mp fields
  exact ⟨system, final, reachable, run, running, ring⟩

end Example

end Gkrtos
