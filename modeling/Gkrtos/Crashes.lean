import Gkrtos.FairTurns
import Gkrtos.PidChecks
import Gkrtos.TimeSlices

/-! Which calls into the kernel never come back. No exception is one of them. Of the system
calls it is those for which there is a check missing: a creation with the task table full, a
sleep or a death of a task that was killed and still runs, and a kill of a task that is not
there. The last one goes well by accident when the task was killed in its sleep and no task is
asleep any more. TASK_NEXT_TICK is the one that never works. -/
namespace Gkrtos
open Stateful ListRefinement KernelRefinement Scheduler

section Handlers

variable [PicoSdk]

/-- The handler ends in a fault. -/
def System.Crashes (system : System) : Action → Prop
  | .svc _ number args now =>
    number = syscallTaskNextTick ∨
    number = syscallCreateTask ∧ configMaxTasks ≤ system.kernel.currentMaxPid ∨
    (number = syscallSleepUntil ∨ number = syscallDie) ∧ system.kernel.running ∉ system.live ∨
    number = syscallKill ∧ args.pid ∉ system.live ∧
      (system.kernel.nextRunTime args.pid = nilTime ∨
        ((view system.kernel).select now).sleepers ≠ [])
  | _ => False

variable {mask : InterruptMask} {kernel kernel' : Kernel} {s : Scheduler} {live : Finset Pid}
variable {system : System} {task : TaskPtr} {pid : Pid} {now : AbsoluteTime} {args : SyscallArgs}

/-! ## Steps and system calls -/

omit [PicoSdk] in
theorem outside_unrecorded (outside : Outside mask kernel s) :
    Outside mask kernel.unrecorded { s with trace := [] } := by
  obtain ⟨sound, rfl, free, enabled, log⟩ := outside
  exact ⟨sound.of_same rfl rfl rfl rfl rfl, rfl, free, enabled, .nil, by simp [Kernel.unrecorded]⟩

/-! ## A task that is in no queue -/

theorem completed_asleep (now : AbsoluteTime) (invariant : Invariant live s) (dead : pid ∉ live) :
    ((s.complete pid).select now).deadline pid = s.deadline pid ∧
      ((s.complete pid).select now).sleepers = (s.select now).sleepers := by
  have sameDue := (s.complete_choice pid now).1
  have notDue : s.due now ≠ some pid := fun due =>
    dead (invariant.placed.mem_sleepers.mp (List.mem_of_head? (due_eq_some.mp due).1)).1
  constructor
  · rw [select_deadline, sameDue, if_neg notDue]
    simp
  · cases due : s.due now with
    | none =>
      rw [select_idle due, select_idle (sameDue.trans due)]
      rfl
    | some first =>
      rw [select_due due, select_due (sameDue.trans due)]
      rfl

/-- With nobody asleep nothing is found, and nothing is removed. -/
theorem dequeueTask_nobody (outside : Outside mask kernel s) (inTable : task < configMaxTasks)
    (asleep : s.deadline task ≠ nilTime) (nobody : s.sleepers = []) :
    ∃ kernel', taskingDequeueTask task kernel = .ok .success kernel' ∧
      kernel'.criticalSection.held = false := by
  obtain ⟨entered, enter, inside⟩ := enterBlocking_simulates kernel s outside trivial
  have inside : Inside mask entered s := inside
  have empty : (entered.lists.header entered.scheduledQueue).length = 0 := by
    rw [← length_contents, inside.sleepers, nobody, List.length_nil]
  have scheduled := isScheduledTask_eq inside task
  simp [taskingDequeueTask, enter, internalTaskingDequeueTaskLocked, inTable, scheduled, asleep,
    onLists, listGetItemWithData, queueRemove, recordCall, listRemove, inside.sound.scheduled, empty,
    exit_run]

theorem queueContextSwitch_free (free : kernel.criticalSection.held = false)
    (inTable : task < configMaxTasks) :
    ∃ kernel', internalQueueContextSwitch task kernel = .ok task kernel' := by
  simp [queueContextSwitch_eq, enter_run free, exit_run, loadTask, inTable]

section Calls

variable [Malloc]

/-- A step has no next state if its handler does not return. -/
theorem step_none {action : Action} : system.step action = none ↔
    ∀ result kernel', handle action system.kernel.unrecorded ≠ .ok result kernel' := by
  unfold System.step
  split
  case h_1 result kernel' run =>
    constructor
    · intro stuck
      cases stuck
    · exact fun never => absurd run (never result kernel')
  case h_2 fault kernel' run =>
    refine iff_of_true rfl ?_
    intro result kernel'' run'
    cases run.symm.trans run'

/-- The trap returns if the system call does. -/
theorem step_svc_none {stackptr number : Word} :
    system.step (.svc stackptr number args now) = none ↔ ∀ value kernel',
      internalSyscall system.kernel.running number args now system.kernel.unrecorded ≠
        .ok value kernel' := by
  rw [step_none]
  constructor
  · intro never value kernel' run
    refine never value { kernel' with svcallStackptr := stackptr } ?_
    exact bind_ok.mpr ⟨_, _, rfl, bind_ok.mpr ⟨value, kernel', run, rfl⟩⟩
  · intro never value kernel' run
    obtain ⟨task, _, found, called⟩ := bind_ok.mp run
    cases (found : EStateM.Result.ok system.kernel.running system.kernel.unrecorded = _)
    obtain ⟨value', between, call, -⟩ := bind_ok.mp called
    exact never value' between call

/-- A killed task is killed again in its sleep, with nobody else asleep. -/
theorem kill_asleep (outside : Outside mask kernel s) (invariant : Invariant live s)
    (dead : pid ∉ live) (asleep : s.deadline pid ≠ nilTime)
    (nobody : (s.select now).sleepers = []) :
    ∃ kernel', internalSyscallKill pid now kernel = .ok syscallErrnoSuccess kernel' := by
  have created : pid < s.maxPid := by
    by_contra fresh
    exact asleep (invariant.numbered.fresh pid (Nat.le_of_not_lt fresh))
  have inTable := Nat.lt_of_lt_of_le created invariant.numbered.bound
  obtain ⟨deadline, sleepers⟩ := completed_asleep now invariant dead
  obtain ⟨marked, mark, outside₁⟩ := storeTask_outside pid
    (fun task => { task with taskStatus := .complete }) kernel s outside inTable
  have ready : (s.complete pid).Choosable now ∧
      ∀ first ∈ (s.complete pid).sleepers, first < configMaxTasks :=
    ⟨fun _ => List.ne_nil_of_mem invariant.spin_mem_ring,
        fun first member => sleepers_inTable invariant first member⟩
  obtain ⟨chosen, choose, outside₂⟩ := getNextTask_simulates now marked (s.complete pid) outside₁ ready
  obtain ⟨removed, remove, free⟩ := dequeueTask_nobody outside₂ inTable
    (deadline ▸ asleep) (sleepers.trans nobody)
  have next : (s.complete pid).choice now < configMaxTasks := by
    rw [(s.complete_choice pid now).2]
    exact invariant.inTable (choice_live now invariant)
  obtain ⟨requested, request⟩ := queueContextSwitch_free free next
  refine ⟨requested, bind_ok.mpr ⟨_, marked, mark, ?_⟩⟩
  refine bind_ok.mpr ⟨_, chosen, choose, ?_⟩
  exact bind_ok.mpr ⟨_, removed, remove, bind_ok.mpr ⟨_, requested, request, rfl⟩⟩

/-! ## Calls that go wrong -/

theorem sleepUntil_dead (outside : Outside mask kernel s) (invariant : Invariant live s)
    (dead : task ∉ live) (awake : s.deadline task = nilTime) {value : Word} :
    internalSyscallSleepUntil task args.milliseconds now args.itemsAsTasks kernel ≠
      .ok value kernel' := by
  intro run
  obtain ⟨next, slept, sleep, -⟩ := bind_ok.mp run
  obtain ⟨done, entered, enter, sleep⟩ := bind_ok.mp sleep
  obtain ⟨⟨⟩, between, dequeue, -⟩ := bind_ok.mp sleep
  obtain ⟨left, returns⟩ : ∃ left, taskingDequeueTask task kernel = .ok .success left := by
    simp [taskingDequeueTask, enter, dequeue, criticalSectionDataStructuresExit]
  have removed := PidChecks.dequeued_from outside returns
  rw [if_pos awake] at removed
  cases removed with
  | inl member => exact dead (invariant.placed.mem_ring.mp member).1
  | inr empty => exact List.ne_nil_of_mem invariant.spin_mem_ring empty

theorem kill_missing (outside : Outside mask kernel s) (invariant : Invariant live s)
    (dead : pid ∉ live) (lost : s.deadline pid = nilTime ∨ (s.select now).sleepers ≠ [])
    {value : Word} : internalSyscallKill pid now kernel ≠ .ok value kernel' := by
  intro run
  rcases PidChecks.kill_bad_pid outside invariant dead now with
    ⟨fault, _, stops, -⟩ | ⟨_, -, -, asleep, nobody⟩
  · cases run.symm.trans stops
  · exact lost.elim asleep (absurd nobody)

theorem die_dead (outside : Outside mask kernel s) (invariant : Invariant live s)
    (dead : task ∉ live) (created : task < s.maxPid) (awake : s.deadline task = nilTime)
    {value : Word} : internalSyscallDie task now kernel ≠ .ok value kernel' := by
  intro run
  have inTable := Nat.lt_of_lt_of_le created invariant.numbered.bound
  have pid : (kernel.taskList task).pid = task := by
    have shown : (kernel.taskList task).pid = s.pid task :=
      congrArg Task.pid (congrFun (congrArg Scheduler.table outside.shows) task)
    rw [shown, invariant.numbered.pids task created]
  obtain ⟨record, loaded, load, kill⟩ := bind_ok.mp run
  obtain ⟨-, rfl, rfl⟩ := loadTask_ok load
  rw [pid] at kill
  obtain ⟨value', killed, kill, -⟩ := bind_ok.mp kill
  exact kill_missing outside invariant dead (.inl awake) kill

/-! ## Every call -/

theorem step_die_none (good : Good mask system s) (awake : s.deadline s.running = nilTime)
    (stackptr : Word) :
    system.step (.svc stackptr syscallDie args now) = none ↔ system.kernel.running ∉ system.live := by
  have outside := outside_unrecorded good.outside
  have invariant := good.invariant.of_record [] s.requested s.taken
  rw [step_svc_none, good.running]
  constructor
  · intro stuck alive
    obtain ⟨after, run, -⟩ := die_simulates now s.running _ _ outside ⟨invariant, alive⟩
    exact stuck _ _ run
  · intro dead value after run
    exact die_dead outside invariant dead invariant.numbered.running awake run

theorem step_sleep_none (good : Good mask system s) (awake : s.deadline s.running = nilTime)
    (notSpin : system.kernel.running ≠ 1) (stackptr : Word) :
    system.step (.svc stackptr syscallSleepUntil args now) = none ↔
      system.kernel.running ∉ system.live := by
  constructor
  · intro stuck alive
    have legal : system.Legal (.svc stackptr syscallSleepUntil args now) :=
      .inr (.inr (.inl ⟨rfl, alive, notSpin⟩))
    obtain ⟨next, stepped, -⟩ := step_simulates good legal
    cases stuck.symm.trans stepped
  · rw [step_svc_none, good.running]
    intro dead value after run
    exact sleepUntil_dead (outside_unrecorded good.outside)
      (good.invariant.of_record [] s.requested s.taken) dead awake run

theorem step_kill_none (good : Good mask system s) (stackptr : Word) :
    system.step (.svc stackptr syscallKill args now) = none ↔ args.pid ∉ system.live ∧
      (system.kernel.nextRunTime args.pid = nilTime ∨
        ((view system.kernel).select now).sleepers ≠ []) := by
  have outside := outside_unrecorded good.outside
  have invariant := good.invariant.of_record [] s.requested s.taken
  have sleepers : (({ s with trace := [] } : Scheduler).select now).sleepers =
      (s.select now).sleepers := by
    cases due : s.due now with
    | none => rw [select_idle due, select_idle (s := { s with trace := [] }) due]
    | some first => rw [select_due due, select_due (s := { s with trace := [] }) due]
  rw [step_svc_none, good.nextRunTime, good.outside.shows, ← sleepers]
  constructor
  · intro stuck
    have dead : args.pid ∉ system.live := by
      intro alive
      obtain ⟨after, run, -⟩ := kill_simulates now args.pid _ _ outside ⟨invariant, alive⟩
      exact stuck _ _ run
    refine ⟨dead, ?_⟩
    by_contra found
    obtain ⟨asleep, somebody⟩ := not_or.mp found
    obtain ⟨after, run⟩ := kill_asleep outside invariant dead asleep (not_not.mp somebody)
    exact stuck _ _ run
  · rintro ⟨dead, lost⟩ value after run
    exact kill_missing outside invariant dead lost run

theorem step_create_none (good : Good mask system s) (stackptr : Word) :
    system.step (.svc stackptr syscallCreateTask args now) = none ↔
      configMaxTasks ≤ system.kernel.currentMaxPid := by
  constructor
  · intro stuck
    by_contra room
    have legal : system.Legal (.svc stackptr syscallCreateTask args now) :=
      .inr (.inl ⟨rfl, Nat.lt_of_not_le room⟩)
    obtain ⟨next, stepped, -⟩ := step_simulates good legal
    cases stuck.symm.trans stepped
  · rw [step_svc_none]
    intro full value after run
    have create : internalSyscallCreateTask args.createTask args.itemsAsTasks
        system.kernel.unrecorded = .ok value after := run
    obtain ⟨index, _, new, -⟩ := bind_ok.mp create
    have inside := (taskingTaskNew_ok new).1
    rw [TaskCreation.taskNew_counts new] at inside
    exact Nat.not_le_of_lt inside full

omit [Malloc] in
theorem crashes_kill {stackptr : Word} : system.Crashes (.svc stackptr syscallKill args now) ↔
    args.pid ∉ system.live ∧ (system.kernel.nextRunTime args.pid = nilTime ∨
      ((view system.kernel).select now).sleepers ≠ []) := by
  simp [System.Crashes, syscallDie, syscallTaskNextTick, syscallCreateTask, syscallSleepUntil,
    syscallKill]

/-- In a reachable state the handlers that may be taken, and that the spin task does not put
itself to sleep with, end in a fault in these cases and in no other. -/
theorem crashes_iff {action : Action} (reachable : system.Reachable System.Legal)
    (mayTake : system.MayTake action) (spins : ∀ stackptr args now,
      action = .svc stackptr syscallSleepUntil args now → system.kernel.running ≠ 1) :
    system.step action = none ↔ system.Crashes action := by
  obtain ⟨mask, s, good⟩ := reachable_good reachable
  have returns (legal : system.Legal action) : system.step action ≠ none := by
    obtain ⟨next, stepped, -⟩ := step_simulates good legal
    simp [stepped]
  cases action with
  | systick stackptr now now' now'' => exact iff_of_false (returns trivial) id
  | takePendsv => exact iff_of_false (returns trivial) id
  | pendsv stackptr now now' => exact iff_of_false (returns trivial) id
  | svc stackptr number args now =>
    obtain ⟨-, quiet, untaken⟩ := mayTake
    obtain ⟨mask, s, good, -, -, awake⟩ := reachable_runs_awake reachable quiet untaken
    by_cases nextTick : number = syscallTaskNextTick
    · subst nextTick
      obtain ⟨after, blocks⟩ := CriticalSections.handle_nextTick system.kernel.unrecorded
        (.svc stackptr syscallTaskNextTick args now) good.outside.free rfl
      refine iff_of_true (step_none.mpr ?_) (.inl rfl)
      intro result kernel' run
      cases run.symm.trans blocks
    by_cases create : number = syscallCreateTask
    · subst create
      rw [step_create_none good]
      simp [System.Crashes, syscallDie, syscallTaskNextTick, syscallCreateTask, syscallSleepUntil,
        syscallKill]
    by_cases sleep : number = syscallSleepUntil
    · subst sleep
      rw [step_sleep_none good awake (spins _ _ _ rfl)]
      simp [System.Crashes, syscallDie, syscallTaskNextTick, syscallCreateTask, syscallSleepUntil,
        syscallKill]
    by_cases die : number = syscallDie
    · subst die
      rw [step_die_none good awake]
      simp [System.Crashes, syscallDie, syscallTaskNextTick, syscallCreateTask, syscallSleepUntil,
        syscallKill]
    by_cases kill : number = syscallKill
    · subst kill
      rw [step_kill_none good, crashes_kill]
    have others : ¬ system.Crashes (.svc stackptr number args now) := by
      simp [System.Crashes, nextTick, create, sleep, die, kill]
    refine iff_of_false (returns ?_) others
    by_cases yield : number = syscallYield
    · exact .inl yield
    · have unknown : syscallTaskNextTick < number := by
        simp only [syscallTaskNextTick, syscallCreateTask, syscallSleepUntil, syscallDie, syscallKill,
          syscallYield] at nextTick create sleep die kill yield ⊢
        bv_omega
      exact .inr (.inr (.inr (.inr (.inr unknown))))

end Calls

end Handlers

section Example

attribute [local instance] PicoSdk.reference Malloc.reference

/-- Task 3 falls asleep and is killed by the spin task. -/
private def killedAsleep : Option (InterruptMask × Finset Pid × Scheduler) :=
  Scheduler.run Scheduler.Permitted [
    .svc 0 syscallYield .zero 10, .takePendsv, .pendsv 0 11 11,
    .svc 0 syscallSleepUntil { SyscallArgs.zero with milliseconds := 90000 } 20,
    .takePendsv, .pendsv 0 21 21,
    .svc 0 syscallKill { SyscallArgs.zero with pid := 3 } 30, .takePendsv, .pendsv 0 31 31]
    (false, atStart 0 0 (List.replicate 2 SyscallArgs.zero.createTask) 0)

private theorem killedAsleep_isSome : killedAsleep.isSome := by decide +kernel

/-- Where the kernel is then. -/
private def awoken : InterruptMask × Finset Pid × Scheduler := killedAsleep.get killedAsleep_isSome

private theorem awoken_quiet : awoken.1 = false ∧ awoken.2.2.requested = false ∧
    awoken.2.2.taken = false := by decide +kernel

/-- Killed once more it is reported as killed, but there is no killing pid 0. -/
theorem crashes_iff_example : ∃ system : System, system.Reachable System.Legal ∧
    system.step (.svc 0 syscallKill { SyscallArgs.zero with pid := 3 } 40) ≠ none ∧
      system.step (.svc 0 syscallKill .zero 40) = none := by
  obtain ⟨system, reached, good, alive⟩ := reachedBy_of_run System.Legal 0 0 _ 0
    legal_mirrors (by decide) (Option.some_get killedAsleep_isSome).symm
  have good : Good awoken.1 system awoken.2.2 := good
  have alive : system.live = awoken.2.1 := alive
  have mayTake (args : SyscallArgs) : system.MayTake (.svc 0 syscallKill args 40) :=
    (mayTake_iff good).mpr awoken_quiet
  have crashes (args : SyscallArgs) : system.step (.svc 0 syscallKill args 40) = none ↔
      system.Crashes (.svc 0 syscallKill args 40) :=
    crashes_iff reached.reachable (mayTake args) fun _ _ _ same => by cases same
  have kills (args : SyscallArgs) : system.Crashes (.svc 0 syscallKill args 40) ↔
      args.pid ∉ awoken.2.1 ∧
        (awoken.2.2.deadline args.pid = nilTime ∨ (awoken.2.2.select 40).sleepers ≠ []) := by
    rw [← alive, ← good.nextRunTime, ← good.outside.shows]
    exact crashes_kill
  refine ⟨system, reached.reachable, ?_, ?_⟩
  · rw [ne_eq, crashes, kills]
    decide +kernel
  · rw [crashes, kills]
    decide +kernel

end Example

end Gkrtos
