import Gkrtos.Runs

/-! The end of a task. A kill chooses the next task while the victim is still
queued, and dequeues it afterwards. When the turn is the victim's it is put into
the slot for the switch, and runs on although it is dead. When it is not, the
victim is gone for good: nothing that happens later chooses it or switches to
it. -/
namespace Gkrtos

namespace Scheduler

variable {live : Finset Pid} {s : Scheduler} {task other : Pid} {now now' now'' : AbsoluteTime}

/-! ## Gone for good -/

/-- The task has died, no switch to it is asked for, and the last handler run
did not choose it or switch to it. -/
structure Gone (live : Finset Pid) (s : Scheduler) (task : Pid) : Prop where
  dead : task ∉ live
  created : task < s.maxPid
  complete : s.status task = .complete
  unqueued : s.queued ≠ task
  unseen : Unseen s.trace task

/-- A live task is not the dead one. -/
theorem Gone.ne_live (gone : Gone live s task) (alive : other ∈ live) : other ≠ task := by
  rintro rfl
  exact gone.dead alive

theorem gone_pendsv {stackptr : Word} (gone : Gone live s task) (invariant : Invariant live s) :
    Gone live (s.pendsv stackptr now now') task := by
  unfold pendsv
  split
  · exact gone
  · obtain ⟨dead, created, complete, unqueued, unseen⟩ := gone
    have next : s.pid s.queued ≠ task := by
      rw [invariant.numbered.pids _ invariant.numbered.queued]
      exact unqueued
    refine ⟨dead, created, ?_, unqueued, ?_⟩
    · change (s.contextSwitch stackptr now now').status task = .complete
      have stays : ((s.change s.running (stopped stackptr now)).status task) = .complete := by
        rw [change_status]
        split_ifs with same
        · subst same
          have done : (s.table s.running).taskStatus = .complete := complete
          simp [stopped, done]
        · exact complete
      have other : task ≠ s.queued := unqueued.symm
      have resumed := change_status (s.change s.running (stopped stackptr now)) s.queued task
        (resumed now')
      rw [if_neg other] at resumed
      exact resumed.trans stays
    · exact unseen.append next

variable [PicoSdk]

/-- The choice falls on a live task. -/
theorem gone_chooses {s' : Scheduler} (gone : Gone live s task) (invariant : Invariant live s)
    (chooses : s.Chooses now s') (complete : s'.status task = .complete) : Gone live s' task := by
  have chosen := choice_live now invariant
  have different := gone.ne_live chosen
  refine ⟨gone.dead, ?_, complete, ?_, ?_⟩
  · rw [chooses.maxPid]
    exact gone.created
  · rw [chooses.queued, invariant.pid chosen]
    exact different
  · rw [chooses.trace]
    exact gone.unseen.append different

theorem gone_yield (gone : Gone live s task) (invariant : Invariant live s) :
    Gone live (s.yield now) task :=
  gone_chooses gone invariant (yield_chooses s now) (by simpa using gone.complete)

theorem gone_kill (gone : Gone live s task) (invariant : Invariant live s) (alive : other ∈ live) :
    Gone (live.erase other) (s.kill other now) task := by
  have kept : (s.complete other).status task = s.status task := by
    rw [Scheduler.complete, change_status, if_neg (gone.ne_live alive).symm]
  have complete : (s.kill other now).status task = .complete := by simpa [kept] using gone.complete
  have stays := gone_chooses gone invariant (kill_chooses s other now) complete
  exact { stays with dead := fun member => gone.dead (Finset.mem_of_mem_erase member) }

theorem gone_postpone (deadline : AbsoluteTime) (read : ItemsAsTasks) (gone : Gone live s task) :
    Gone live (s.postpone other deadline read) task := by
  obtain ⟨dead, created, complete, unqueued, unseen⟩ := gone
  exact ⟨dead, by simpa using created, by simpa using complete, by simpa using unqueued,
    by simpa using unseen⟩

theorem gone_createTask {args : CreateTaskArgs} {read : ItemsAsTasks} (gone : Gone live s task) :
    Gone (insert s.maxPid live) (s.createTask args read) task := by
  obtain ⟨dead, created, complete, unqueued, unseen⟩ := gone
  have different : task ≠ s.maxPid := Nat.ne_of_lt created
  refine ⟨?_, ?_, ?_, by simpa using unqueued, by simpa using unseen⟩
  · intro member
    exact (Finset.mem_insert.mp member).elim different dead
  · simpa using Nat.lt_succ_of_lt created
  · have table := (enqueue_fields ({ s with maxPid := s.maxPid + 1 }.change s.maxPid
      (newborn s.maxPid args)) s.maxPid read).1
    rw [createTask, status, table, ← status, change_status, if_neg different]
    exact complete

/-- The step lemma: a task that is gone stays gone. -/
theorem gone_step {action : Action} (gone : Gone live s task) (invariant : Invariant live s)
    (legal : s.Legal live action) : Gone (s.liveAfter live action) (s.step action) task := by
  have good := invariant.of_record [] s.requested s.taken
  have cleared : Gone live { s with trace := [] } task :=
    ⟨gone.dead, gone.created, gone.complete, gone.unqueued, .nil⟩
  have effect := step_effect invariant legal
  generalize s.liveAfter live action = live', s.step action = s' at effect ⊢
  cases effect with
  | idle => exact cleared
  | yield _ now => exact gone_yield cleared good
  | createTask stackptr args now room => exact gone_createTask cleared
  | sleepUntil stackptr args now alive notSpin =>
    exact gone_yield (gone_postpone _ _ cleared) (invariant_postpone _ _ good alive notSpin)
  | kill _ victim now alive notSpin => exact gone_kill cleared good alive
  | takePendsv => exact ⟨gone.dead, gone.created, gone.complete, gone.unqueued, cleared.unseen⟩
  | pendsv stackptr now now' =>
    obtain ⟨dead, created, complete, unqueued, unseen⟩ := gone_pendsv cleared good
    exact ⟨dead, created, complete, unqueued, unseen⟩

/-- Only a switch changes the running task, to the queued one. -/
theorem running_step {action : Action} (invariant : Invariant live s) (notRunning : s.running ≠ task)
    (unqueued : s.queued ≠ task) : (s.step action).running ≠ task := by
  have same : ({ s with trace := [] } : Scheduler).running ≠ task := notRunning
  cases action with
  | svc stackptr number args now =>
    change (Scheduler.syscall _ number args now).running ≠ task
    unfold syscall
    split_ifs <;> simpa [sleepUntil] using notRunning
  | systick stackptr now now' now'' =>
    change (Scheduler.systick _ now now' now'').running ≠ task
    unfold systick
    split_ifs
    · simpa using notRunning
    · exact notRunning
  | takePendsv => exact notRunning
  | pendsv stackptr now now' =>
    change (Scheduler.pendsv _ stackptr now now').running ≠ task
    unfold pendsv
    split_ifs
    · exact notRunning
    · change s.pid s.queued ≠ task
      rw [invariant.numbered.pids _ invariant.numbered.queued]
      exact unqueued

/-! ## Whose turn it is -/

/-- The task is a due head of the scheduled queue or, with no task due, the one
behind the head of the ring. -/
def ComesNext (s : Scheduler) (task : TaskPtr) (now : AbsoluteTime) : Prop :=
  if ∃ first ∈ s.sleepers.head?, s.IsDue now first then s.sleepers.head? = some task
  else s.ring[1]? = some task

instance (s : Scheduler) (task : TaskPtr) (now : AbsoluteTime) : Decidable (s.ComesNext task now) :=
  inferInstanceAs (Decidable (ite _ _ _))

theorem choice_eq_iff (invariant : Invariant live s) (notSpin : task ≠ 1) :
    s.choice now = task ↔ s.ComesNext task now := by
  cases due : s.due now with
  | some first =>
    obtain ⟨head, isDue⟩ := due_eq_some.mp due
    rw [choice_due due, ComesNext, if_pos ⟨first, head, isDue⟩, head, Option.some.injEq]
  | none =>
    have nothing : ¬ ∃ first ∈ s.sleepers.head?, s.IsDue now first := by
      rintro ⟨first, head, isDue⟩
      exact due_eq_none.mp due first head isDue
    rw [choice_idle due, ComesNext, if_neg nothing]
    have spin := invariant.spin_mem_ring
    rcases shape : s.ring with _ | ⟨first, _ | ⟨second, rest⟩⟩
    · simp [shape] at spin
    · obtain rfl : 1 = first := by simpa [shape] using spin
      simpa using notSpin.symm
    · simp

/-- A kill that does not choose the victim ends it. -/
theorem kill_gone (invariant : Invariant live s) (alive : task ∈ live) (quiet : s.trace = [])
    (notNext : s.choice now ≠ task) : Gone (live.erase task) (s.kill task now) task := by
  have chooses := kill_chooses s task now
  refine ⟨Finset.notMem_erase task live, ?_, ?_, ?_, ?_⟩
  · rw [chooses.maxPid]
    exact invariant.numbered.created task alive
  · rw [(kill_fields s task now).2.2.2.2.2.2.1, Scheduler.complete, change_status, if_pos rfl]
  · rw [chooses.queued, invariant.pid (choice_live now invariant)]
    exact notNext
  · rw [chooses.trace, quiet]
    exact Unseen.nil.append notNext

end Scheduler

open KernelRefinement

section Ending

variable [PicoSdk]

/-- The task is the due head of the scheduled queue or, with no task due there,
the second one of the unscheduled queue. -/
def Kernel.ComesNext (kernel : Kernel) (task : TaskPtr) (now : AbsoluteTime) : Prop :=
  if ∃ first ∈ kernel.scheduled.head?, kernel.IsDue now first then kernel.scheduled.head? = some task
  else kernel.unscheduled[1]? = some task

theorem comesNext_iff {mask : InterruptMask} {system : System} {s : Scheduler} {task : Pid}
    {now : AbsoluteTime} (good : Good mask system s) (notSpin : task ≠ 1) :
    system.kernel.ComesNext task now ↔ s.choice now = task := by
  obtain ⟨⟨sound, rfl, free, enabled, log⟩, invariant⟩ := good
  exact (Scheduler.choice_eq_iff invariant notSpin).symm

variable [Malloc]

/-- DIE takes the running task off the core for good: a switch to another task
is requested, and whatever happens later, no handler chooses the dead task, asks
for a switch to it or switches to it. -/
def System.DieStops (system : System) (stackptr : Word) (args : SyscallArgs) (now : AbsoluteTime) :
    Prop :=
  ∃ system', system.step (.svc stackptr syscallDie args now) = some system' ∧
    system'.kernel.pendsvPending = true ∧
    ∀ final : System, Relation.ReflTransGen (System.Step System.Legal) system' final →
      final.kernel.queued ≠ system.kernel.running ∧
      Unseen final.kernel.trace system.kernel.running

/-- KILL ends its victim for good: it is in no queue and, whatever happens
later, it stays complete, does not run, and no handler chooses it or asks for a
switch to it. -/
def System.KillFinal (system : System) (stackptr : Word) (args : SyscallArgs) (now : AbsoluteTime) :
    Prop :=
  ∃ system', system.step (.svc stackptr syscallKill args now) = some system' ∧
    args.pid ∉ system'.kernel.scheduled ∧ args.pid ∉ system'.kernel.unscheduled ∧
    ∀ final : System, Relation.ReflTransGen (System.Step System.Legal) system' final →
      final.kernel.queued ≠ args.pid ∧ final.kernel.running ≠ args.pid ∧
      (final.kernel.taskList args.pid).taskStatus = .complete ∧
      Unseen final.kernel.trace args.pid

section Runs

variable {mask : InterruptMask} {system final : System} {s : Scheduler} {task : Pid}
variable {now : AbsoluteTime}

/-- A step that kills a task puts the choice into the slot, and the task is gone
unless it is the choice. -/
theorem kill_step {action : Action} (good : Good mask system s) (legal : system.Legal action)
    (kills : s.step action = { s with trace := [] }.kill task now)
    (dies : s.liveAfter system.live action = system.live.erase task) (alive : task ∈ system.live) :
    ∃ system', system.step action = some system' ∧
      Good (s.maskAfter mask action) system' ({ s with trace := [] }.kill task now) ∧
      system'.live = system.live.erase task ∧ system'.kernel.queued = s.choice now ∧
      (s.choice now ≠ task →
        Scheduler.Gone system'.live ({ s with trace := [] }.kill task now) task) := by
  have quiet := good.invariant.of_record [] s.requested s.taken
  have chosen := Scheduler.choice_live now good.invariant
  obtain ⟨system', stepped, good', live⟩ := step_simulates good legal
  rw [kills] at good'
  rw [dies] at live
  refine ⟨system', stepped, good', live, ?_, ?_⟩
  · have slot := (Scheduler.kill_fields { s with trace := [] } task now).2.2.1
    have queued : system'.kernel.queued = _ := good'.queued
    exact (queued.trans slot).trans (good.invariant.pid chosen)
  · intro different
    rw [live]
    exact Scheduler.kill_gone quiet alive rfl different

/-- The run lemma. -/
theorem gone_run (good : Good mask system s) (gone : s.Gone system.live task)
    (run : Relation.ReflTransGen (System.Step System.Legal) system final) :
    ∃ mask s, Good mask final s ∧ s.Gone final.live task :=
  run_induction (fun _ live s => s.Gone live task) (fun _ _ legal => legal)
    (fun _ _ _ _ good legal gone => Scheduler.gone_step gone good.invariant ((legal_iff good).mp legal))
    good gone run

theorem unrun_run (good : Good mask system s) (gone : s.Gone system.live task)
    (notRunning : s.running ≠ task)
    (run : Relation.ReflTransGen (System.Step System.Legal) system final) :
    final.kernel.running ≠ task := by
  have kept : ∃ mask s, Good mask final s ∧ s.Gone final.live task ∧ s.running ≠ task := by
    apply run_induction (fun _ live s => s.Gone live task ∧ s.running ≠ task) (fun _ _ legal => legal)
      _ good ⟨gone, notRunning⟩ run
    rintro mask system s action good legal ⟨gone, notRunning⟩
    constructor
    · exact Scheduler.gone_step gone good.invariant ((legal_iff good).mp legal)
    · exact Scheduler.running_step good.invariant notRunning gone.unqueued
  obtain ⟨mask, s, good, -, notRunning⟩ := kept
  have running : final.kernel.running = s.running := good.running
  rw [running]
  exact notRunning

end Runs

section Endings

variable {mask : InterruptMask} {system : System} {s : Scheduler}
variable {stackptr : Word} {args : SyscallArgs} {now : AbsoluteTime}

/-- The step of DIE. -/
private theorem die_step (stackptr : Word) (args : SyscallArgs) (now : AbsoluteTime)
    (good : Good mask system s) (caller : system.Caller) :
    ∃ system', system.step (.svc stackptr syscallDie args now) = some system' ∧
      Good mask system' ({ s with trace := [] }.kill s.running now) ∧
      system'.kernel.queued = s.choice now ∧
      (s.choice now ≠ s.running →
        Scheduler.Gone system'.live ({ s with trace := [] }.kill s.running now) s.running) := by
  have running : system.kernel.running = s.running := good.running
  have legal : system.Legal (.svc stackptr syscallDie args now) :=
    .inr (.inr (.inr (.inl ⟨rfl, caller⟩)))
  have alive : s.running ∈ system.live := running ▸ caller.1
  have victim : s.pid s.running = s.running := good.invariant.pid alive
  obtain ⟨system', stepped, good', -, slot, gone⟩ := kill_step good legal
    (congrArg (Scheduler.kill _ · now) victim) rfl alive
  exact ⟨system', stepped, good', slot, gone⟩

theorem not_next_of_dieStops (good : Good mask system s) (caller : system.Caller)
    (stops : system.DieStops stackptr args now) :
    ¬ system.kernel.ComesNext system.kernel.running now := by
  have running : system.kernel.running = s.running := good.running
  rw [comesNext_iff good caller.2, running]
  intro same
  obtain ⟨system', stepped, -, never⟩ := stops
  obtain ⟨after, stepped', -, slot, -⟩ := die_step stackptr args now good caller
  obtain rfl : system' = after := Option.some.inj (stepped.symm.trans stepped')
  exact (never system' .refl).1 (slot.trans (same.trans running.symm))

theorem dieStops_of_not_next (good : Good mask system s) (caller : system.Caller)
    (notNext : ¬ system.kernel.ComesNext system.kernel.running now) :
    system.DieStops stackptr args now := by
  have running : system.kernel.running = s.running := good.running
  rw [comesNext_iff good caller.2, running] at notNext
  rw [System.DieStops, running]
  obtain ⟨system', stepped, good', -, gone⟩ := die_step stackptr args now good caller
  refine ⟨system', stepped, ?_, ?_⟩
  · have pending : system'.kernel.pendsvPending = _ := good'.requested
    have chosen := good.invariant.pid (Scheduler.choice_live now good.invariant)
    rw [pending, (Scheduler.kill_fields _ s.running now).2.2.2.1]
    change (s.requested || s.running != s.pid (s.choice now)) = true
    rw [chosen]
    simp [Ne.symm notNext]
  · intro final run
    obtain ⟨mask', s', good'', gone'⟩ := gone_run good' (gone notNext) run
    obtain ⟨⟨sound, rfl, free, enabled, log⟩, invariant⟩ := good''
    exact ⟨gone'.unqueued, gone'.unseen⟩

theorem not_next_of_killFinal (good : Good mask system s) (alive : args.pid ∈ system.live)
    (notSpin : args.pid ≠ 1) (final : system.KillFinal stackptr args now) :
    ¬ system.kernel.ComesNext args.pid now := by
  have legal : system.Legal (.svc stackptr syscallKill args now) :=
    .inr (.inr (.inr (.inr (.inl ⟨rfl, alive, notSpin⟩))))
  rw [comesNext_iff good notSpin]
  intro same
  obtain ⟨system', stepped, -, -, never⟩ := final
  obtain ⟨after, stepped', -, -, slot, -⟩ := kill_step good legal rfl rfl alive
  obtain rfl : system' = after := Option.some.inj (stepped.symm.trans stepped')
  exact (never system' .refl).1 (slot.trans same)

theorem killFinal_of_not_next (good : Good mask system s) (alive : args.pid ∈ system.live)
    (notRunning : args.pid ≠ system.kernel.running) (notSpin : args.pid ≠ 1)
    (notNext : ¬ system.kernel.ComesNext args.pid now) : system.KillFinal stackptr args now := by
  have running : system.kernel.running = s.running := good.running
  have legal : system.Legal (.svc stackptr syscallKill args now) :=
    .inr (.inr (.inr (.inr (.inl ⟨rfl, alive, notSpin⟩))))
  rw [comesNext_iff good notSpin] at notNext
  obtain ⟨system', stepped, good', live, -, gone⟩ := kill_step good legal rfl rfl alive
  have placed := good'.invariant.placed
  have dead : args.pid ∉ system'.live := live ▸ Finset.notMem_erase args.pid system.live
  have scheduled : system'.kernel.scheduled = _ := good'.scheduled
  have unscheduled : system'.kernel.unscheduled = _ := good'.unscheduled
  refine ⟨system', stepped, ?_, ?_, ?_⟩
  · rw [scheduled]
    exact fun member => dead (placed.mem_sleepers.mp member).1
  · rw [unscheduled]
    exact fun member => dead (placed.mem_ring.mp member).1
  · intro final run
    have stays : ({ s with trace := [] }.kill args.pid now).running ≠ args.pid := by
      rw [(Scheduler.kill_fields _ args.pid now).2.1]
      exact (running ▸ notRunning).symm
    have notRunning' := unrun_run good' (gone notNext) stays run
    obtain ⟨mask', s', good'', gone'⟩ := gone_run good' (gone notNext) run
    obtain ⟨⟨sound, rfl, free, enabled, log⟩, invariant⟩ := good''
    exact ⟨gone'.unqueued, notRunning', gone'.complete, gone'.unseen⟩

end Endings

theorem die_stops_iff (system : System) (reachable : system.Reachable System.Legal)
    (caller : system.Caller) (stackptr : Word) (args : SyscallArgs) (now : AbsoluteTime) :
    system.DieStops stackptr args now ↔
      ¬ system.kernel.ComesNext system.kernel.running now := by
  obtain ⟨mask, s, good⟩ := reachable_good reachable
  constructor
  · exact not_next_of_dieStops good caller
  · exact dieStops_of_not_next good caller

theorem kill_final_iff (system : System) (reachable : system.Reachable System.Legal)
    (stackptr : Word) (args : SyscallArgs) (now : AbsoluteTime) (alive : args.pid ∈ system.live)
    (notRunning : args.pid ≠ system.kernel.running) (notSpin : args.pid ≠ 1) :
    system.KillFinal stackptr args now ↔ ¬ system.kernel.ComesNext args.pid now := by
  obtain ⟨mask, s, good⟩ := reachable_good reachable
  constructor
  · exact not_next_of_killFinal good alive notSpin
  · exact killFinal_of_not_next good alive notRunning notSpin

end Ending

section Example

attribute [local instance] PicoSdk.reference Malloc.reference

/-- The last of three tasks has its first turn. -/
private def firstTurn : Option (InterruptMask × Finset Pid × Scheduler) :=
  Scheduler.run Scheduler.Permitted
    [.svc 0 syscallYield .zero 100, .takePendsv, .pendsv 0 101 102]
    (false, atStart 0 0 (List.replicate 3 SyscallArgs.zero.createTask) 0)

private theorem firstTurn_isSome : firstTurn.isSome := by decide +kernel

/-- The only task besides the spin task sleeps and is woken up again. -/
private def wokenRun : List Action := [
  .svc 0 syscallYield .zero 100, .takePendsv, .pendsv 0 101 102,
  .svc 0 syscallSleepUntil { SyscallArgs.zero with milliseconds := 10000 } 200,
  .takePendsv, .pendsv 0 201 202,
  .systick 0 9500 9500 9500, .takePendsv, .pendsv 0 9501 9502]

private def woken : Option (InterruptMask × Finset Pid × Scheduler) :=
  Scheduler.run Scheduler.Permitted wokenRun
    (false, atStart 0 0 [SyscallArgs.zero.createTask] 0)

private theorem woken_isSome : woken.isSome := by decide +kernel

theorem die_stops_iff_example : ∃ system : System, system.Reachable System.Legal ∧ system.Caller ∧
    system.DieStops 0 .zero 200 := by
  obtain ⟨system, reached, good, live⟩ := reachedBy_of_run _ 0 0 _ 0 legal_mirrors (by decide)
    (Option.some_get firstTurn_isSome).symm
  have running : system.kernel.running = 4 := good.running.trans (by decide +kernel)
  have caller : system.Caller := by
    rw [caller_iff good, live]
    decide +kernel
  refine ⟨system, reached.reachable, caller, ?_⟩
  apply (die_stops_iff system reached.reachable caller 0 .zero 200).mpr
  rw [comesNext_iff good caller.2, running]
  decide +kernel

/-- A task that was woken up and dies in its turn is put into the slot itself,
and no switch is requested. -/
theorem die_returns : ∃ (system : System) (actions : List Action),
    system.ReachedBy System.Permitted actions ∧
      (∀ action ∈ actions, ¬ action.Kills) ∧ system.Caller ∧ ¬ system.DieStops 0 .zero 9600 := by
  obtain ⟨system, reached, good, live⟩ := reachedBy_of_run _ 0 0 _ 0 permitted_mirrors (by decide)
    (Option.some_get woken_isSome).symm
  have running : system.kernel.running = 2 := good.running.trans (by decide +kernel)
  have caller : system.Caller := by
    rw [caller_iff good, live]
    decide +kernel
  refine ⟨system, wokenRun, reached, by decide, caller, ?_⟩
  intro stops
  apply not_next_of_dieStops good caller stops
  rw [comesNext_iff good caller.2, running]
  decide +kernel

theorem kill_final_iff_example : ∃ system : System, system.Reachable System.Legal ∧
    2 ∈ system.live ∧ 2 ≠ system.kernel.running ∧
      system.KillFinal 0 { SyscallArgs.zero with pid := 2 } 200 := by
  obtain ⟨system, reached, good, live⟩ := reachedBy_of_run _ 0 0 _ 0 legal_mirrors (by decide)
    (Option.some_get firstTurn_isSome).symm
  have running : 2 ≠ system.kernel.running := by
    rw [good.running]
    decide +kernel
  have alive : 2 ∈ system.live := by
    rw [live]
    decide +kernel
  refine ⟨system, reached.reachable, alive, running, ?_⟩
  apply (kill_final_iff system reached.reachable 0 { SyscallArgs.zero with pid := 2 } 200 alive running
    (by decide)).mpr
  rw [comesNext_iff good (by decide)]
  decide +kernel

/-- The next task in turn is killed and still switched to. -/
theorem kill_dispatches : ∃ (system : System) (actions : List Action),
    system.ReachedBy System.Permitted actions ∧
      system.Caller ∧ 3 ∈ system.live ∧ 3 ≠ system.kernel.running ∧
      ¬ system.KillFinal 0 { SyscallArgs.zero with pid := 3 } 200 := by
  obtain ⟨system, reached, good, live⟩ := reachedBy_of_run _ 0 0 _ 0 permitted_mirrors (by decide)
    (Option.some_get firstTurn_isSome).symm
  have running : system.kernel.running = 4 := good.running.trans (by decide +kernel)
  have caller : system.Caller := by
    rw [caller_iff good, live]
    decide +kernel
  have alive : 3 ∈ system.live := by
    rw [live]
    decide +kernel
  refine ⟨system, _, reached, caller, alive, by rw [running]; decide, ?_⟩
  intro final
  apply not_next_of_killFinal good alive (by decide) final
  rw [comesNext_iff good (by decide)]
  decide +kernel

end Example

end Gkrtos
