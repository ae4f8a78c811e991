import Gkrtos.Runs

/-! Which task comes next when the running one gives up the core. `yield` and `die`
turn the ring while the task is still at its head, which brings up its successor.
`sleep_until` takes the task out first; the successor is then the head already, and
turning the ring passes over it, unless it is the only task left. -/
namespace Gkrtos
open KernelRefinement PicoSdk

namespace Scheduler

variable [PicoSdk] {live : Finset Pid} {s : Scheduler} {task other : Pid}
variable {deadline now : AbsoluteTime} {read : ItemsAsTasks}

/-- Whatever the turn of the ring brings up is put into the slot. -/
theorem yield_queued (invariant : Invariant live s) (idle : s.due now = none) :
    (s.yield now).queued = (s.ring.rotate 1).headD 0 := by
  obtain ⟨-, -, queued, -⟩ := yield_fields s now
  rw [queued, invariant.pid (choice_live now invariant), choice_idle idle]

/-- A task that dies is still in the ring then. -/
theorem kill_queued {victim : Pid} (invariant : Invariant live s) (idle : s.due now = none) :
    (s.kill victim now).queued = (s.ring.rotate 1).headD 0 := by
  obtain ⟨-, -, queued, -⟩ := kill_fields s victim now
  rw [queued, invariant.pid (choice_live now invariant), choice_idle idle]

/-- Unless it goes first, a task is put behind the head of the scheduled queue. -/
theorem enqueue_head (asleep : s.deadline task ≠ nilTime) :
    (s.enqueue task read).sleepers.head? =
      if s.GoesFirst task then some task else s.sleepers.head?.or (some task) := by
  by_cases goesFirst : s.GoesFirst task
  · rw [enqueue_first asleep goesFirst, if_pos goesFirst, List.head?_cons]
  · rw [enqueue_behind asleep goesFirst, if_neg goesFirst]
    rcases s.sleepers with _ | ⟨first, _ | ⟨second, rest⟩⟩
    · rfl
    · rfl
    · cases queueSort (s.table task) read <;> rfl

/-- A task that falls asleep until `deadline` comes to the head of the scheduled
queue. -/
def SleepsFirst (s : Scheduler) (deadline : AbsoluteTime) : Prop :=
  ∀ first ∈ s.sleepers.head?, absoluteTimeDiffUs (s.deadline first) deadline < 0

instance (s : Scheduler) (deadline : AbsoluteTime) : Decidable (s.SleepsFirst deadline) :=
  inferInstanceAs (Decidable (∀ _ ∈ _, _))

theorem postpone_head (awake : s.deadline task = nilTime) (asleep : deadline ≠ nilTime)
    (notSleeping : task ∉ s.sleepers) :
    (s.postpone task deadline read).sleepers.head? =
      if s.SleepsFirst deadline then some task else s.sleepers.head? := by
  let removed := (s.dequeue task).setDeadline task deadline
  have sleepers : removed.sleepers = s.sleepers := by
    show (s.dequeue task).sleepers = s.sleepers
    rw [dequeue_awake awake]
  have written : ∀ other, removed.deadline other = if other = task then deadline else s.deadline other := by
    intro other
    have kept : (s.dequeue task).deadline other = s.deadline other := by
      rw [dequeue_awake awake]
      rfl
    rw [← kept]
    exact setDeadline_deadline (s.dequeue task) task other deadline
  have sleeps : removed.deadline task ≠ nilTime := by
    rw [written, if_pos rfl]
    exact asleep
  show (removed.enqueue task read).sleepers.head? = _
  rw [enqueue_head sleeps, sleepers]
  cases shape : s.sleepers.head? with
  | none => simp [SleepsFirst, shape]
  | some first =>
    have different : first ≠ task := by
      rintro rfl
      exact notSleeping (List.mem_of_head? shape)
    have goes : removed.GoesFirst task ↔ s.SleepsFirst deadline := by
      simp [GoesFirst, SleepsFirst, sleepers, shape, written, different]
    simp only [goes, Option.some_or]

/-- The deadline of a task that falls asleep counts as past, and no other task
is ahead of it. -/
def WakesAtOnce (s : Scheduler) (deadline now : AbsoluteTime) : Prop :=
  0 < absoluteTimeDiffUs deadline (makeTimeoutTimeUs now getSystickPeriod) ∧ s.SleepsFirst deadline

instance (s : Scheduler) (deadline now : AbsoluteTime) : Decidable (s.WakesAtOnce deadline now) :=
  inferInstanceAs (Decidable (_ ∧ _))

/-- This takes a deadline beyond the end of time, or one within the systick period. -/
theorem not_wakesAtOnce (late : now.toNat + 1000 ≤ deadline.toNat)
    (representable : deadline.toNat < 2 ^ 63) : ¬ s.WakesAtOnce deadline now := by
  rintro ⟨comes, -⟩
  have period : getSystickPeriod.toNat = 1000 := by decide
  have timeout : (makeTimeoutTimeUs now getSystickPeriod).toNat = now.toNat + 1000 := by
    rw [makeTimeoutTimeUs_toNat (by omega), period]
  rw [diff_pos_iff representable (by omega)] at comes
  omega

/-- Nobody else is woken up when a task falls asleep. -/
theorem postpone_due (awake : s.deadline task = nilTime) (asleep : deadline ≠ nilTime)
    (notSleeping : task ∉ s.sleepers) (idle : ∀ task ∈ s.sleepers, ¬ s.IsDue now task) :
    (s.postpone task deadline read).due now =
      if s.WakesAtOnce deadline now then some task else none := by
  have head : (s.postpone task deadline read).sleepers.head? = _ :=
    postpone_head awake asleep notSleeping
  have written := fun other => postpone_deadline s task other deadline read
  by_cases sleepsFirst : s.SleepsFirst deadline
  · rw [if_pos sleepsFirst] at head
    have isDue : (s.postpone task deadline read).IsDue now task ↔ s.WakesAtOnce deadline now := by
      rw [IsDue, written, if_pos rfl]
      exact (and_iff_left sleepsFirst).symm
    split_ifs with wakes
    · exact due_eq_some.mpr ⟨head, isDue.mpr wakes⟩
    · apply due_eq_none.mpr
      intro first isHead
      rw [head] at isHead
      obtain rfl : task = first := Option.some.inj isHead
      exact mt isDue.mp wakes
  · rw [if_neg sleepsFirst] at head
    rw [if_neg fun wakes => sleepsFirst wakes.2]
    apply due_eq_none.mpr
    intro first isHead
    rw [head] at isHead
    have member : first ∈ s.sleepers := List.mem_of_head? isHead
    have different : first ≠ task := by
      rintro rfl
      exact notSleeping member
    rw [IsDue, written, if_neg different]
    exact idle first member

/-- A task that falls asleep leaves the ring. -/
theorem postpone_ring (awake : s.deadline task = nilTime) (asleep : deadline ≠ nilTime) :
    (s.postpone task deadline read).ring = s.ring.erase task := by
  let removed := (s.dequeue task).setDeadline task deadline
  have ring : removed.ring = s.ring.erase task := by
    show (s.dequeue task).ring = s.ring.erase task
    rw [dequeue_awake awake]
  have sleeps : removed.deadline task ≠ nilTime := by
    have written := setDeadline_deadline (s.dequeue task) task task deadline
    rw [if_pos rfl] at written
    show ((s.dequeue task).setDeadline task deadline).deadline task ≠ nilTime
    rw [written]
    exact asleep
  show (removed.enqueue task read).ring = s.ring.erase task
  by_cases goesFirst : removed.GoesFirst task
  · rw [enqueue_first sleeps goesFirst]
    exact ring
  · rw [enqueue_behind sleeps goesFirst]
    exact ring

/-- The ring is turned behind the task's back, unless the task is woken up again. -/
theorem sleepUntil_queued (invariant : Invariant live s) (notSpin : task ≠ 1)
    (ready : task ∈ s.ring) (idle : ∀ task ∈ s.sleepers, ¬ s.IsDue now task)
    (late : now.toNat + 1000 ≤ deadline.toNat) :
    (s.sleepUntil task deadline now read).queued =
      if s.WakesAtOnce deadline now then task else ((s.ring.erase task).rotate 1).headD 0 := by
  obtain ⟨alive, awake⟩ := invariant.placed.mem_ring.mp ready
  have asleep : deadline ≠ nilTime := by
    rintro rfl
    exact absurd late (by simp [nilTime])
  have notSleeping : task ∉ s.sleepers := fun member =>
    (invariant.placed.mem_sleepers.mp member).2 awake
  have postponed := invariant_postpone deadline read invariant alive notSpin
  obtain ⟨-, -, queued, -⟩ := yield_fields (s.postpone task deadline read) now
  have due : (s.postpone task deadline read).due now = _ :=
    postpone_due awake asleep notSleeping idle
  rw [sleepUntil, queued, postponed.pid (choice_live now postponed)]
  by_cases wakes : s.WakesAtOnce deadline now
  · rw [if_pos wakes] at due ⊢
    exact choice_due due
  · rw [if_neg wakes] at due ⊢
    rw [choice_idle due, postpone_ring awake asleep]

/-- What each of the three calls puts into the slot. -/
theorem step_queued {successor : Pid} {rest : List Pid} {args : SyscallArgs} {stackptr number : Word}
    (invariant : Invariant live s) (notSpin : s.running ≠ 1)
    (ring : s.ring = s.running :: successor :: rest)
    (idle : ∀ task ∈ s.sleepers, ¬ s.IsDue now task)
    (late : now.toNat + 1000 ≤ args.milliseconds.toNat)
    (call : number ∈ [syscallYield, syscallDie, syscallSleepUntil]) :
    (s.step (.svc stackptr number args now)).queued =
      if number = syscallSleepUntil then
        if s.WakesAtOnce args.milliseconds now then s.running else (rest ++ [successor]).headD 0
      else successor := by
  have good := invariant.of_record [] s.requested s.taken
  have notDue : ({ s with trace := [] } : Scheduler).due now = none :=
    due_eq_none.mpr fun first head => idle first (List.mem_of_head? head)
  have turned : (s.ring.rotate 1).headD 0 = successor := by
    simp [ring]
  simp only [List.mem_cons, List.not_mem_nil, or_false] at call
  obtain (rfl | rfl | rfl) := call
  · rw [if_neg (by decide), ← turned]
    exact yield_queued good notDue
  · rw [if_neg (by decide), ← turned]
    exact kill_queued good notDue
  · have ready : s.running ∈ s.ring := by
      simp [ring]
    have passed : ((s.ring.erase s.running).rotate 1).headD 0 = (rest ++ [successor]).headD 0 := by
      simp [ring]
    rw [if_pos rfl, ← passed]
    exact sleepUntil_queued good notSpin ready idle late

end Scheduler

section Systems

variable [PicoSdk] [Malloc]

/-- The handler run puts this task into the slot. -/
def System.Queues (system : System) (action : Action) (next : Pid) : Prop :=
  ∃ system', system.step action = some system' ∧ system'.kernel.queued = next

/-- All three ways to give up the core hand it to the second task of the ring. -/
def System.HandsOver (system : System) (args : SyscallArgs) (now : AbsoluteTime) : Prop :=
  ∀ successor, system.kernel.unscheduled[1]? = some successor →
    ∀ number ∈ [syscallYield, syscallDie, syscallSleepUntil], ∀ stackptr,
      system.Queues (.svc stackptr number args now) successor

/-- The running task, which is not the spin task, is at the head of the ring with
others behind it, and nobody is to be woken up. -/
structure System.CanGiveUp (system : System) (now : AbsoluteTime) : Prop where
  notSpin : system.kernel.running ≠ 1
  head : system.kernel.unscheduled.head? = some system.kernel.running
  others : 2 ≤ system.kernel.unscheduled.length
  idle : ∀ task ∈ system.kernel.scheduled, ¬ system.kernel.IsDue now task

/-- SLEEP_UNTIL with this deadline would put the caller to the head of the
scheduled queue, where it counts as due. -/
def System.WakesAtOnce (system : System) (deadline now : AbsoluteTime) : Prop :=
  0 < absoluteTimeDiffUs deadline (makeTimeoutTimeUs now getSystickPeriod) ∧
    ∀ first ∈ system.kernel.scheduled.head?,
      absoluteTimeDiffUs (system.kernel.nextRunTime first) deadline < 0

instance (system : System) (deadline now : AbsoluteTime) : Decidable (system.WakesAtOnce deadline now) :=
  inferInstanceAs (Decidable (_ ∧ ∀ _ ∈ _, _))

variable {system : System} {now : AbsoluteTime} {args : SyscallArgs}

theorem queues_iff {mask : InterruptMask} {s : Scheduler} {action : Action} {next : Pid}
    (good : Good mask system s) (legal : system.Legal action) :
    system.Queues action next ↔ (s.step action).queued = next := by
  obtain ⟨system', stepped, good', -⟩ := step_simulates good legal
  have slot : system'.kernel.queued = (s.step action).queued := good'.queued
  rw [← slot]
  constructor
  · rintro ⟨other, stepped', queued⟩
    obtain rfl : system' = other := Option.some.inj (stepped.symm.trans stepped')
    exact queued
  · exact fun queued => ⟨system', stepped, queued⟩

omit [Malloc] in
theorem System.CanGiveUp.ring (gives : system.CanGiveUp now) : ∃ successor rest,
    system.kernel.unscheduled = system.kernel.running :: successor :: rest := by
  obtain ⟨-, head, others, -⟩ := gives
  rcases shape : system.kernel.unscheduled with _ | ⟨first, _ | ⟨successor, rest⟩⟩
  · simp [shape] at head
  · simp [shape] at others
  · rw [shape] at head
    obtain rfl : first = system.kernel.running := Option.some.inj head
    exact ⟨successor, rest, rfl⟩

omit [Malloc] in
theorem System.CanGiveUp.legal {mask : InterruptMask} {s : Scheduler} (gives : system.CanGiveUp now)
    (good : Good mask system s) (args : SyscallArgs) (stackptr : Word) :
    ∀ number ∈ [syscallYield, syscallDie, syscallSleepUntil],
      system.Legal (.svc stackptr number args now) := by
  have ready : system.kernel.running ∈ s.ring := good.unscheduled ▸ List.mem_of_head? gives.head
  have alive := (good.invariant.placed.mem_ring.mp ready).1
  intro number call
  simp only [List.mem_cons, List.not_mem_nil, or_false] at call
  obtain (rfl | rfl | rfl) := call
  · exact .inl rfl
  · exact .inr (.inr (.inr (.inl ⟨rfl, alive, gives.notSpin⟩)))
  · exact .inr (.inr (.inl ⟨rfl, alive, gives.notSpin⟩))

/-- The second task of a ring comes next, unless the first one is taken out before
the turn and a third one is there, or it is woken up again, which takes a
deadline beyond the end of time. -/
theorem successor_kept_iff (reachable : system.Reachable System.Legal) (gives : system.CanGiveUp now)
    (late : now.toNat + 1000 ≤ args.milliseconds.toNat) :
    system.HandsOver args now ↔ system.kernel.unscheduled.length = 2 ∧
      (2 ^ 63 ≤ args.milliseconds.toNat → ¬ system.WakesAtOnce args.milliseconds now) := by
  obtain ⟨mask, s, good⟩ := reachable_good reachable
  obtain ⟨successor, rest, ring⟩ := gives.ring
  have legal := gives.legal good args
  obtain rfl : view system.kernel = s := good.outside.shows
  have queues : ∀ stackptr, ∀ number ∈ [syscallYield, syscallDie, syscallSleepUntil], ∀ next,
      system.Queues (.svc stackptr number args now) next ↔
        (if number = syscallSleepUntil then
          if system.WakesAtOnce args.milliseconds now then system.kernel.running
          else (rest ++ [successor]).headD 0
        else successor) = next := by
    intro stackptr number call next
    rw [queues_iff good (legal stackptr number call)]
    rw [Scheduler.step_queued good.invariant gives.notSpin ring gives.idle late call]
    rfl
  have second : system.kernel.unscheduled[1]? = some successor := by
    simp [ring]
  -- The caller, its successor and the third task, if there is one, differ.
  have distinct : system.kernel.unscheduled.Nodup := good.invariant.placed.ring_nodup
  rw [ring] at distinct
  constructor
  · intro hands
    have slept := hands successor second syscallSleepUntil (by simp) 0
    rw [queues 0 _ (by simp), if_pos rfl] at slept
    by_cases wakes : system.WakesAtOnce args.milliseconds now
    · rw [if_pos wakes] at slept
      simp [slept] at distinct
    · refine ⟨?_, fun _ => wakes⟩
      rw [if_neg wakes] at slept
      cases rest with
      | nil => simp [ring]
      | cons third rest =>
        simp only [List.cons_append, List.headD_cons] at slept
        simp [slept] at distinct
  · rintro ⟨two, stays⟩ next isNext number call stackptr
    obtain rfl : successor = next := Option.some.inj (second.symm.trans isNext)
    have alone : rest = [] := by
      simpa [ring] using two
    have sleeps : ¬ system.WakesAtOnce args.milliseconds now := by
      by_cases representable : args.milliseconds.toNat < 2 ^ 63
      · exact Scheduler.not_wakesAtOnce (s := view system.kernel) late representable
      · exact stays (Nat.not_lt.mp representable)
    rw [queues stackptr number call, if_neg sleeps, alone]
    split_ifs <;> rfl

end Systems

section Example

attribute [local instance] PicoSdk.reference Malloc.reference

/-- The last of these tasks has its first turn. -/
private def lastTurn (tasks : Nat) : Option (InterruptMask × Finset Pid × Scheduler) :=
  Scheduler.run Scheduler.Permitted [.svc 0 syscallYield .zero 100, .takePendsv, .pendsv 0 101 102]
    (false, atStart 0 0 (List.replicate tasks SyscallArgs.zero.createTask) 0)

private theorem lastTurn_isSome : (lastTurn 1).isSome ∧ (lastTurn 2).isSome := by
  decide +kernel

private def untilTen : SyscallArgs := { SyscallArgs.zero with milliseconds := 10000 }

/-- It is at the head of the ring, and nobody sleeps. -/
private theorem canGiveUp_of_ring {mask : InterruptMask} {system : System} {s : Scheduler}
    {rest : List Pid} (good : Good mask system s) (notSpin : s.running ≠ 1)
    (ring : s.ring = s.running :: rest) (others : rest ≠ []) (awake : s.sleepers = []) :
    system.CanGiveUp 200 := by
  obtain rfl : view system.kernel = s := good.outside.shows
  have unscheduled : system.kernel.unscheduled = system.kernel.running :: rest := ring
  have scheduled : system.kernel.scheduled = [] := awake
  constructor
  case notSpin => exact notSpin
  case head => rw [unscheduled, List.head?_cons]
  case others =>
    rw [unscheduled, List.length_cons]
    exact Nat.succ_le_succ (List.length_pos_of_ne_nil others)
  case idle => simp [scheduled]

theorem successor_kept_iff_example : ∃ system : System, system.Reachable System.Legal ∧
    system.kernel.unscheduled.length = 2 ∧ system.HandsOver untilTen 200 := by
  obtain ⟨system, reached, good, -⟩ := reachedBy_of_run _ 0 0 _ 0 permitted_mirrors (by decide)
    (Option.some_get lastTurn_isSome.1).symm
  have reachable := reached.reachable.imp fun _ _ permitted => permitted.1
  have gives : system.CanGiveUp 200 :=
    @canGiveUp_of_ring _ _ _ [1] good (by decide +kernel) (by decide +kernel) (by simp)
      (by decide +kernel)
  have two : system.kernel.unscheduled.length = 2 := by
    rw [good.unscheduled]
    decide +kernel
  have representable : untilTen.milliseconds.toNat < 2 ^ 63 := by decide
  exact ⟨system, reachable, two, (successor_kept_iff reachable gives (by decide)).mpr
    ⟨two, fun beyond => absurd representable (Nat.not_lt.mpr beyond)⟩⟩

/-- With three tasks in the ring, sleeping passes over the successor. -/
theorem successor_skipped : ∃ system : System, system.Reachable System.Legal ∧
    system.CanGiveUp 200 ∧ system.kernel.unscheduled = [3, 2, 1] ∧
      system.Queues (.svc 0 syscallYield untilTen 200) 2 ∧
      system.Queues (.svc 0 syscallDie untilTen 200) 2 ∧
      system.Queues (.svc 0 syscallSleepUntil untilTen 200) 1 ∧
      ¬ system.HandsOver untilTen 200 := by
  obtain ⟨system, reached, good, live⟩ := reachedBy_of_run _ 0 0 _ 0 permitted_mirrors (by decide)
    (Option.some_get lastTurn_isSome.2).symm
  have reachable := reached.reachable.imp fun _ _ permitted => permitted.1
  have gives : system.CanGiveUp 200 :=
    @canGiveUp_of_ring _ _ _ [2, 1] good (by decide +kernel) (by decide +kernel) (by simp)
      (by decide +kernel)
  have ring : system.kernel.unscheduled = [3, 2, 1] := by
    rw [good.unscheduled]
    decide +kernel
  have running : system.kernel.running = 3 := good.running.trans (by decide +kernel)
  have caller : system.Caller := by
    rw [caller_iff good, live]
    decide +kernel
  have mayYield : system.Legal (.svc 0 syscallYield untilTen 200) := .inl rfl
  have mayDie : system.Legal (.svc 0 syscallDie untilTen 200) :=
    .inr (.inr (.inr (.inl ⟨rfl, caller⟩)))
  have maySleep : system.Legal (.svc 0 syscallSleepUntil untilTen 200) :=
    .inr (.inr (.inl ⟨rfl, caller⟩))
  have yields : system.Queues (.svc 0 syscallYield untilTen 200) 2 :=
    (queues_iff good mayYield).mpr (by decide +kernel)
  have dies : system.Queues (.svc 0 syscallDie untilTen 200) 2 :=
    (queues_iff good mayDie).mpr (by decide +kernel)
  have sleeps : system.Queues (.svc 0 syscallSleepUntil untilTen 200) 1 :=
    (queues_iff good maySleep).mpr (by decide +kernel)
  refine ⟨system, reachable, gives, ring, yields, dies, sleeps, ?_⟩
  intro hands
  obtain ⟨slept, stepped, queued⟩ := hands 2 (by simp [ring]) syscallSleepUntil (by simp) 0
  obtain ⟨slept', stepped', queued'⟩ := sleeps
  obtain rfl : slept = slept' := Option.some.inj (stepped.symm.trans stepped')
  rw [queued'] at queued
  exact absurd queued (by decide)

end Example

end Gkrtos
