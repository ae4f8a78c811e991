import Gkrtos.BoundedWaiting

/-! A task that is ready can wait forever, even while the spin task has the core again and
again. Three tasks that sleep and yield are enough: one that comes back from its sleep
enters behind the spin task, so that by the time the spin task yields there is always
another one to go first, and the one in front of the ready task goes to sleep, so that the
ready task is skipped. -/
namespace Gkrtos
open KernelRefinement RoundRobin

namespace Scheduler

variable {live : Finset Pid} {s : Scheduler} {ring sleepers rest : List Pid} {running queued : Pid}
variable {first second task : Pid} {requested : Bool} {wake : Nat} {time : AbsoluteTime}

/-- No switch has been taken but not carried out. -/
structure Stands (ring sleepers : List Pid) (running queued : Pid) (requested : Bool) (wake : Nat)
    (s : Scheduler) : Prop where
  ring : s.ring = ring
  sleepers : s.sleepers = sleepers
  running : s.running = running
  queued : s.queued = queued
  requested : s.requested = requested
  untaken : s.taken = false
  wake : ∀ sleeper ∈ s.sleepers, (s.deadline sleeper).toNat = wake

theorem Stands.cleared (stands : Stands ring sleepers running queued requested wake s) :
    Stands ring sleepers running queued requested wake { s with trace := [] } :=
  ⟨stands.ring, stands.sleepers, stands.running, stands.queued, stands.requested, stands.untaken,
    stands.wake⟩

variable [PicoSdk]

theorem stands_pendsv (stackptr : Word) (now now' : AbsoluteTime) (invariant : Invariant live s)
    (stands : Stands ring sleepers running queued true wake s) (different : queued ≠ running) :
    Stands ring sleepers queued queued false wake
        ((s.step .takePendsv).step (.pendsv stackptr now now')) ∧
      ((s.step .takePendsv).step (.pendsv stackptr now now')).trace = [.dispatched queued] := by
  obtain ⟨rfl, rfl, rfl, rfl, -, -, wake⟩ := stands
  have runningPid : s.pid s.running = s.running := invariant.numbered.pids _ invariant.numbered.running
  have queuedPid : s.pid s.queued = s.queued := invariant.numbered.pids _ invariant.numbered.queued
  let taken : Scheduler := { s with trace := [], requested := false, taken := true }
  have switched : taken.pendsv stackptr now now' =
      { taken.contextSwitch stackptr now now' with
        trace := [.dispatched (taken.contextSwitch stackptr now now').running] } := by
    unfold pendsv
    exact if_neg fun same => different (same.trans runningPid)
  have deadlines := (contextSwitch_pid_deadline taken stackptr now now').2
  show Stands _ _ _ _ _ _ { taken.pendsv stackptr now now' with taken := false } ∧
    (taken.pendsv stackptr now now').trace = _
  rw [switched]
  refine ⟨⟨rfl, rfl, queuedPid, rfl, rfl, rfl, fun sleeper member => ?_⟩, ?_⟩
  · exact (congrArg UInt64.toNat (congrFun deadlines sleeper)).trans (wake sleeper member)
  · exact congrArg (fun pid => [Event.dispatched pid]) queuedPid

/-- Nobody is due. -/
theorem Stands.idle (stands : Stands ring sleepers running queued requested wake s)
    (early : sleepers ≠ [] → time.toNat + 1000 ≤ wake ∧ wake < 2 ^ 63) : s.due time = none := by
  refine due_eq_none.mpr fun first isHead => ?_
  have member : first ∈ s.sleepers := List.mem_of_mem_head? isHead
  obtain ⟨late, small⟩ := early (stands.sleepers ▸ List.ne_nil_of_mem member)
  have wakes := stands.wake first member
  rw [isDue_iff (by omega) (by omega), wakes]
  omega

theorem stands_yield (invariant : Invariant live s)
    (stands : Stands (first :: second :: rest) sleepers running queued requested wake s)
    (idle : s.due time = none) (different : second ≠ running) :
    Stands (second :: rest ++ [first]) sleepers running second true wake (s.yield time) ∧
      (s.yield time).trace = s.trace ++ [.selected second time false] := by
  have choice : s.choice time = second := choice_second idle (by rw [stands.ring]; rfl)
  have alive : second ∈ live := by
    have member : second ∈ s.ring := by simp [stands.ring]
    exact (invariant.placed.mem_ring.mp member).1
  obtain ⟨-, running', queued', requested', taken', -, -, ring', sleepers', deadline', trace'⟩ :=
    yield_fields s time
  rw [choice, invariant.pid alive] at queued' requested'
  rw [choice, idle] at trace'
  refine ⟨⟨?_, ?_, running'.trans stands.running, queued', ?_, taken'.trans stands.untaken, ?_⟩, trace'⟩
  · rw [ring', select_idle idle]
    show s.ring.rotate 1 = _
    rw [stands.ring, List.rotate_cons_succ, List.rotate_zero]
  · rw [sleepers', select_idle idle]
    exact stands.sleepers
  · rw [requested', stands.running]
    simp [different.symm]
  · rw [deadline', sleepers', select_idle idle]
    exact stands.wake

/-- The only sleeper is due, and goes to the end of the ring. -/
theorem stands_wake (invariant : Invariant live s)
    (stands : Stands ring [task] running queued requested wake s)
    (late : wake < time.toNat + 1000) (small : time.toNat + 1000 < 2 ^ 63) (different : task ≠ running) :
    Stands (ring ++ [task]) [] running task true wake (s.step (.systick 0 time time time)) ∧
      (s.step (.systick 0 time time time)).trace = [.selected task time true] := by
  have wakes := stands.wake task (by rw [stands.sleepers]; exact List.mem_cons_self)
  have isDue : s.IsDue time task := by
    rw [isDue_iff small (by omega), wakes]
    exact late
  have due : s.due time = some task := due_eq_some.mpr ⟨by rw [stands.sleepers]; rfl, isDue⟩
  have required : ({ s with trace := [] } : Scheduler).RescheduleRequired time time := by
    refine .inr ⟨task, ?_, isDue⟩
    show task ∈ s.sleepers.head?
    rw [stands.sleepers]
    rfl
  have alive : task ∈ live := by
    have member : task ∈ s.sleepers := by rw [stands.sleepers]; exact List.mem_cons_self
    exact (invariant.placed.mem_sleepers.mp member).1
  have stepped : s.step (.systick 0 time time time) = ({ s with trace := [] } : Scheduler).yield time :=
    if_pos required
  have due' : ({ s with trace := [] } : Scheduler).due time = some task := due
  obtain ⟨-, running', queued', requested', taken', -, -, ring', sleepers', -, trace'⟩ :=
    yield_fields ({ s with trace := [] } : Scheduler) time
  have pid : ({ s with trace := [] } : Scheduler).pid task = task := invariant.pid alive
  rw [choice_due due', pid] at queued' requested'
  rw [choice_due due', due'] at trace'
  rw [select_due due'] at ring' sleepers'
  rw [stepped]
  refine ⟨⟨?_, ?_, running'.trans stands.running, queued', ?_, taken'.trans stands.untaken, ?_⟩, trace'⟩
  · rw [ring']
    exact congrArg (· ++ [task]) stands.ring
  · rw [sleepers']
    show s.sleepers.erase task = []
    rw [stands.sleepers, List.erase_cons_head]
  · rw [requested']
    show (s.requested || s.running != task) = true
    rw [stands.running]
    simp [different.symm]
  · rw [sleepers']
    show ∀ sleeper ∈ s.sleepers.erase task, _
    rw [stands.sleepers, List.erase_cons_head]
    exact fun sleeper member => absurd member List.not_mem_nil

/-- The running task leaves the head of the ring, and nobody slept. -/
theorem stands_postpone {deadline : AbsoluteTime} (read : ItemsAsTasks) (invariant : Invariant live s)
    (stands : Stands (first :: rest) [] first queued requested wake s) (asleep : deadline ≠ nilTime) :
    Stands rest [first] first queued requested deadline.toNat (s.postpone first deadline read) := by
  have awake : s.deadline first = nilTime :=
    (invariant.placed.mem_ring.mp (by rw [stands.ring]; exact List.mem_cons_self)).2
  let removed := (s.dequeue first).setDeadline first deadline
  have left : s.dequeue first = { s with ring := rest } := by
    rw [dequeue_awake awake, stands.ring, List.erase_cons_head]
  have sleeps : removed.deadline first = deadline := by
    rw [setDeadline_deadline, if_pos rfl]
  have nobody : removed.sleepers = [] := by
    show (s.dequeue first).sleepers = []
    rw [left]
    exact stands.sleepers
  have behind : ¬ removed.GoesFirst first := by
    rintro ⟨other, isHead, -⟩
    rw [nobody] at isHead
    cases isHead
  have postponed : s.postpone first deadline read = { removed with sleepers := [first] } := by
    show removed.enqueue first read = _
    rw [enqueue_behind (by rw [sleeps]; exact asleep) behind, nobody]
    rfl
  obtain ⟨-, running', queued', requested', taken', -, -, -⟩ := postpone_fields s first deadline read
  refine ⟨?_, ?_, running'.trans stands.running, queued'.trans stands.queued,
    requested'.trans stands.requested, taken'.trans stands.untaken, ?_⟩
  · rw [postponed]
    show (s.dequeue first).ring = rest
    rw [left]
  · rw [postponed]
  · rw [postponed]
    rintro sleeper member
    obtain rfl := List.mem_singleton.mp member
    exact congrArg UInt64.toNat sleeps

/-- It goes to sleep behind the back of the next one. -/
theorem stands_sleepUntil {deadline : AbsoluteTime} (read : ItemsAsTasks) {others : List Pid}
    (invariant : Invariant live s)
    (stands : Stands (first :: second :: task :: others) [] first queued requested wake s)
    (notSpin : first ≠ 1) (late : time.toNat + 1000 ≤ deadline.toNat) (small : deadline.toNat < 2 ^ 63) :
    Stands (task :: others ++ [second]) [first] first task true deadline.toNat
        (s.sleepUntil first deadline time read) ∧
      (s.sleepUntil first deadline time read).trace = s.trace ++ [.selected task time false] := by
  have distinct := invariant.placed.ring_nodup
  rw [stands.ring] at distinct
  have different : task ≠ first := by
    rintro rfl
    exact (List.nodup_cons.mp distinct).1 (List.mem_cons_of_mem _ List.mem_cons_self)
  have alive : first ∈ live :=
    (invariant.placed.mem_ring.mp (by rw [stands.ring]; exact List.mem_cons_self)).1
  have asleep : deadline ≠ nilTime := by
    rintro rfl
    have zero : nilTime.toNat = 0 := rfl
    omega
  have postponed := stands_postpone read invariant stands asleep
  have idle := postponed.idle fun _ => ⟨late, small⟩
  have result := stands_yield (invariant_postpone deadline read invariant alive notSpin) postponed idle
    different
  rw [(postpone_fields s first deadline read).2.2.2.2.2.1] at result
  exact result

end Scheduler

/-! ## A round -/

/-- The running task yields, and is switched out. -/
def yieldActions (time : AbsoluteTime) : List Action :=
  [.svc 0 syscallYield .zero time, .takePendsv, .pendsv 0 time time]

/-- The SysTick handler wakes the only sleeper. -/
def tickActions (time : AbsoluteTime) : List Action :=
  [.systick 0 time time time, .takePendsv, .pendsv 0 time time]

/-- The running task sleeps for one and a half periods of the SysTick. -/
def sleepActions (time : AbsoluteTime) : List Action :=
  [.svc 0 syscallSleepUntil { SyscallArgs.zero with milliseconds := time + 1500 } time, .takePendsv,
    .pendsv 0 time time]

/-- A SysTick wakes the one that sleeps, which yields; the next one goes to sleep, and the
spin task yields. -/
def roundActions (time : AbsoluteTime) : List Action :=
  tickActions time ++ yieldActions time ++ sleepActions time ++ yieldActions time

/-- What is recorded, when `c` sleeps and `b` is next in line. -/
def roundEvents (b c : Pid) (time : AbsoluteTime) : List Event :=
  [.selected c time true, .dispatched c] ++ [.selected b time false, .dispatched b] ++
    [.selected 1 time false, .dispatched 1] ++ [.selected c time false, .dispatched c]

theorem count_roundEvents {b c : Pid} {time : AbsoluteTime} (notSpin : b ≠ 1) (notSpin' : c ≠ 1) :
    (turnsOf (roundEvents b c time)).count 1 = 1 := by
  show [b, 1, c].count 1 = 1
  simp [notSpin, notSpin']

/-- A round for every SysTick, one in a millisecond. -/
def rounds : Nat → List Action
  | 0 => []
  | n + 1 => rounds n ++ roundActions (UInt64.ofNat (1000 * (n + 1)))

theorem toNat_tick {n : Nat} (fits : 1000 * n < 2 ^ 63) : (UInt64.ofNat (1000 * n)).toNat = 1000 * n := by
  rw [UInt64.toNat_ofNat']
  exact Nat.mod_eq_of_lt (by omega)

theorem roundActions_times (time : AbsoluteTime) :
    (roundActions time).flatMap Action.times = List.replicate 14 time :=
  rfl

/-- The clock does not go back. -/
theorem rounds_ordered (n : Nat) (fits : 1000 * n < 2 ^ 63) :
    ((rounds n).flatMap Action.times).Pairwise (· ≤ ·) ∧
      ∀ time ∈ (rounds n).flatMap Action.times, time.toNat ≤ 1000 * n := by
  induction n with
  | zero => exact ⟨.nil, fun time member => absurd member List.not_mem_nil⟩
  | succ n ih =>
    obtain ⟨ordered, bounded⟩ := ih (by omega)
    rw [rounds, List.flatMap_append, roundActions_times]
    constructor
    · refine List.pairwise_append.mpr ⟨ordered, List.pairwise_replicate.mpr (.inr (UInt64.le_refl _)), ?_⟩
      intro earlier member later last
      rw [List.eq_of_mem_replicate last, UInt64.le_iff_toNat_le, toNat_tick fits]
      exact (bounded earlier member).trans (by omega)
    · intro time member
      obtain old | last := List.mem_append.mp member
      · exact (bounded time old).trans (by omega)
      · rw [List.eq_of_mem_replicate last, toNat_tick fits]

section Rounds

variable [PicoSdk] [Malloc]

/-- The ready task has been passed over so far. -/
structure Passed (start : System) (task : Pid) (actions : List Action) (events : List Event)
    (skips : Nat) (system : System) (s : Scheduler) : Prop where
  good : Good false system s
  run : start.Waits System.Permitted task actions events skips system

variable {start system : System} {s : Scheduler} {actions : List Action} {events : List Event}
variable {skips : Nat} {action : Action} {task : Pid}

theorem passed_step (action : Action) (passed : Passed start task actions events skips system s)
    (permitted : s.Permitted false system.live action) (spares : s.Spares task action)
    (unchosen : (s.step action).Unchosen task) (unmasked : s.maskAfter false action = false) :
    ∃ next, Passed start task (actions ++ [action]) (events ++ (s.step action).trace)
      (skips + if s.Skips task action then 1 else 0) next (s.step action) := by
  obtain ⟨next, good, -, run⟩ := waits_later passed.run passed.good permitted.1
    ((permitted_iff passed.good).mpr permitted) spares unchosen
  rw [unmasked] at good
  exact ⟨next, good, run⟩

variable {ring sleepers rest : List Pid} {running queued first second : Pid} {wake : Nat}
variable {time : AbsoluteTime} {woken : Bool}

/-- A choice of another task, and the switch to it. -/
theorem passed_switch (passed : Passed start task actions events skips system s)
    (permitted : s.Permitted false system.live action) (spares : s.Spares task action)
    (unmasked : s.maskAfter false action = false)
    (stands : (s.step action).Stands ring sleepers running queued true wake)
    (trace : (s.step action).trace = [.selected queued time woken]) (different : queued ≠ running)
    (other : queued ≠ task) :
    ∃ next s', Passed start task (actions ++ [action, .takePendsv, .pendsv 0 time time])
        (events ++ [.selected queued time woken, .dispatched queued])
        (skips + if s.Skips task action then 1 else 0) next s' ∧
      s'.Stands ring sleepers queued queued false wake := by
  have unchosen : (s.step action).Unchosen task := by
    intro time' member
    rw [trace] at member
    obtain same := List.mem_singleton.mp member
    exact other (Event.selected.inj same).1.symm
  obtain ⟨chosen, passed'⟩ := passed_step action passed permitted spares unchosen unmasked
  have invariant := passed'.good.invariant
  obtain ⟨taken, passed''⟩ := passed_step .takePendsv passed'
    ⟨trivial, rfl, stands.requested, stands.untaken⟩ trivial (fun _ => List.not_mem_nil) rfl
  obtain ⟨switched, dispatched⟩ := Scheduler.stands_pendsv 0 time time invariant stands
    different
  have apart : ((s.step action).step .takePendsv).maskAfter false (.pendsv 0 time time) = false := by
    refine if_neg fun same => different ?_
    have runningPid := invariant.numbered.pids _ invariant.numbered.running
    rw [← stands.queued, ← stands.running]
    exact same.trans runningPid
  obtain ⟨next, passed₃⟩ := passed_step (.pendsv 0 time time) passed'' ⟨trivial, rfl⟩ trivial
    (by rw [Scheduler.Unchosen, dispatched]; simp) apart
  have quiet : ((s.step action).step .takePendsv).trace = [] := rfl
  have unskipped : ¬ (s.step action).Skips task .takePendsv := id
  have unskipped' : ¬ ((s.step action).step .takePendsv).Skips task (.pendsv 0 time time) := id
  rw [trace, quiet, dispatched, if_neg unskipped, if_neg unskipped'] at passed₃
  simp only [List.append_assoc, List.append_nil, List.cons_append, List.nil_append, Nat.add_zero]
    at passed₃
  exact ⟨next, _, passed₃, switched⟩

/-- The running task yields. -/
theorem passed_yield (time : AbsoluteTime) (passed : Passed start task actions events skips system s)
    (stands : s.Stands (first :: second :: rest) sleepers running running false wake)
    (early : sleepers ≠ [] → time.toNat + 1000 ≤ wake ∧ wake < 2 ^ 63) (different : second ≠ running)
    (other : second ≠ task) :
    ∃ next s', Passed start task (actions ++ yieldActions time)
        (events ++ [.selected second time false, .dispatched second]) skips next s' ∧
      s'.Stands (second :: rest ++ [first]) sleepers second second false wake := by
  obtain ⟨yields, trace⟩ := Scheduler.stands_yield (passed.good.invariant.of_record [] s.requested s.taken)
    stands.cleared (stands.cleared.idle early) different
  have permitted : s.Permitted false system.live (.svc 0 syscallYield .zero time) :=
    ⟨.inl rfl, rfl, stands.requested, stands.untaken⟩
  have spares : s.Spares task (.svc 0 syscallYield .zero time) :=
    ⟨fun same => absurd same (by decide), fun same => absurd same (by decide)⟩
  have unskipped : ¬ s.Skips task (.svc 0 syscallYield .zero time) := by
    rintro (⟨same, -⟩ | ⟨same, -⟩ | ⟨same, -⟩)
    · exact absurd same (by decide)
    · exact absurd same (by decide)
    · exact absurd same (by decide)
  have result := passed_switch passed permitted spares rfl yields trace different other
  rw [if_neg unskipped] at result
  exact result

/-- The only sleeper is woken. -/
theorem passed_wake (passed : Passed start task actions events skips system s)
    (stands : s.Stands ring [second] running running false wake)
    (late : wake < time.toNat + 1000) (small : time.toNat + 1000 < 2 ^ 63) (different : second ≠ running)
    (other : second ≠ task) :
    ∃ next s', Passed start task (actions ++ tickActions time)
        (events ++ [.selected second time true, .dispatched second]) skips next s' ∧
      s'.Stands (ring ++ [second]) [] second second false wake := by
  obtain ⟨wakes, trace⟩ := Scheduler.stands_wake passed.good.invariant stands late small different
  exact passed_switch passed ⟨trivial, rfl⟩ trivial rfl wakes trace different other

/-- The running task goes to sleep, and the one in question is skipped. -/
theorem passed_sleep (time : AbsoluteTime) (passed : Passed start task actions events skips system s)
    (stands : s.Stands (first :: task :: second :: rest) [] first first false wake)
    (small : time.toNat + 1500 < 2 ^ 63) (notSpin : first ≠ 1) :
    ∃ next s', Passed start task (actions ++ sleepActions time)
        (events ++ [.selected second time false, .dispatched second]) (skips + 1) next s' ∧
      s'.Stands (second :: rest ++ [task]) [first] second second false (time.toNat + 1500) := by
  have invariant := passed.good.invariant.of_record [] s.requested s.taken
  have deadline : (time + 1500).toNat = time.toNat + 1500 := by
    rw [UInt64.toNat_add]
    show (time.toNat + 1500) % 2 ^ 64 = _
    omega
  obtain ⟨sleeps, trace⟩ := Scheduler.stands_sleepUntil .zero invariant stands.cleared notSpin
    (show time.toNat + 1000 ≤ (time + 1500).toNat by omega) (by omega)
  have distinct : (first :: task :: second :: rest).Nodup := stands.ring ▸ invariant.placed.ring_nodup
  obtain ⟨notFirst, notTask, -⟩ : first ∉ task :: second :: rest ∧ task ∉ second :: rest ∧ _ := by
    simpa only [List.nodup_cons] using distinct
  have alive : first ∈ system.live := by
    refine (invariant.placed.mem_ring.mp ?_).1
    rw [stands.cleared.ring]
    exact List.mem_cons_self
  have awake : first ≠ task := fun same => notFirst (same ▸ List.mem_cons_self)
  have different : second ≠ first := fun same => notFirst (same ▸ List.mem_cons_of_mem _ List.mem_cons_self)
  have other : second ≠ task := fun same => notTask (same ▸ List.mem_cons_self)
  have runs := stands.running
  subst runs
  let action : Action :=
    .svc 0 syscallSleepUntil { SyscallArgs.zero with milliseconds := time + 1500 } time
  have permitted : s.Permitted false system.live action :=
    ⟨.inr (.inr (.inl ⟨rfl, alive, notSpin⟩)), rfl, stands.requested, stands.untaken⟩
  have spares : s.Spares task action := ⟨fun _ => awake, fun same => absurd same (by decide)⟩
  have skipped : s.Skips task action := by
    refine .inl ⟨rfl, ?_⟩
    rw [stands.ring]
    rfl
  rw [deadline] at sleeps
  have result := passed_switch passed permitted spares rfl sleeps trace different other
  rw [if_pos skipped] at result
  exact result

variable {a b c ready : Pid}

/-- The round ends as it began, with the tasks in other places. -/
theorem passed_round (time : AbsoluteTime) (passed : Passed start ready actions events skips system s)
    (stands : s.Stands [a, b, ready, 1] [c] a a false wake) (late : wake < time.toNat + 1000)
    (small : time.toNat + 2500 < 2 ^ 63) :
    ∃ next s', Passed start ready (actions ++ roundActions time) (events ++ roundEvents b c time)
        (skips + 1) next s' ∧
      s'.Stands [c, a, ready, 1] [b] c c false (time.toNat + 1500) := by
  have distinct : [a, b, ready, 1].Nodup := stands.ring ▸ passed.good.invariant.placed.ring_nodup
  have asleep : ∀ awake ∈ [a, b, ready, 1], c ≠ awake := by
    rintro awake member rfl
    have placed := passed.good.invariant.placed
    have sleeps : c ∈ s.sleepers := by rw [stands.sleepers]; exact List.mem_cons_self
    exact (placed.mem_sleepers.mp sleeps).2 (placed.mem_ring.mp (stands.ring ▸ member)).2
  simp only [List.nodup_cons, List.mem_cons, List.not_mem_nil, not_or, or_false] at distinct asleep
  obtain ⟨⟨ab, ar, a1⟩, ⟨br, b1⟩, ⟨r1, -⟩⟩ := distinct
  obtain ⟨next₁, s₁, passed₁, stands₁⟩ := passed_wake passed stands late (by omega)
    (asleep a (.inl rfl)) (asleep ready (.inr (.inr (.inl rfl))))
  obtain ⟨next₂, s₂, passed₂, stands₂⟩ := passed_yield time passed₁ stands₁ (fun none => absurd rfl none)
    (asleep b (.inr (.inl rfl))).symm br
  obtain ⟨next₃, s₃, passed₃, stands₃⟩ := passed_sleep time passed₂ stands₂ (by omega) b1
  obtain ⟨next₄, s₄, passed₄, stands₄⟩ := passed_yield time passed₃ stands₃
    (fun _ => ⟨by omega, by omega⟩) (asleep 1 (.inr (.inr (.inr rfl)))) (asleep ready (.inr (.inr (.inl rfl))))
  refine ⟨next₄, s₄, ?_, stands₄⟩
  simp only [List.append_assoc] at passed₄
  simpa only [roundActions, roundEvents, List.append_assoc] using passed₄

/-- The run lemma. -/
theorem passed_rounds (n : Nat) (fits : 1000 * n + 2500 < 2 ^ 63) (passed : Passed start ready [] [] 0 system s)
    (stands : s.Stands [a, b, ready, 1] [c] a a false 1500) :
    ∃ next s' events, ∃ a b c, Passed start ready (rounds n) events n next s' ∧
      s'.Stands [a, b, ready, 1] [c] a a false (1000 * n + 1500) ∧ (turnsOf events).count 1 = n := by
  induction n with
  | zero => exact ⟨system, s, [], a, b, c, passed, stands, rfl⟩
  | succ n ih =>
    obtain ⟨between, s', events, a, b, c, passed', stands', counted⟩ := ih (by omega)
    have tick := toNat_tick (n := n + 1) (by omega)
    have distinct : [a, b, ready, 1].Nodup := stands'.ring ▸ passed'.good.invariant.placed.ring_nodup
    have sleeps : c ∈ s'.sleepers := by rw [stands'.sleepers]; exact List.mem_cons_self
    have awake := passed'.good.invariant.awake
    have notSpin : b ≠ 1 := by
      simp only [List.nodup_cons, List.mem_cons, not_or] at distinct
      exact distinct.2.1.2.1
    have notSpin' : c ≠ 1 := by
      rintro rfl
      exact (passed'.good.invariant.placed.mem_sleepers.mp sleeps).2 awake
    obtain ⟨next, s'', passed'', stands''⟩ := passed_round (UInt64.ofNat (1000 * (n + 1))) passed' stands'
      (by omega) (by omega)
    rw [tick] at stands''
    refine ⟨next, s'', _, c, a, b, passed'', stands'', ?_⟩
    rw [turnsOf_append, List.count_append, counted, count_roundEvents notSpin notSpin']

/-- Nothing has happened yet. -/
theorem passed_start (good : Good false system s) : Passed system task [] [] 0 system s :=
  ⟨good, .now⟩

theorem Passed.steps (passed : Passed start task actions events skips system s) :
    Relation.ReflTransGen (System.Step System.Permitted) start system := by
  have run := passed.run
  clear passed
  induction run with
  | now => exact .refl
  | later before isAllowed spares stepped unchosen ih => exact .tail ih ⟨_, isAllowed, stepped⟩

/-- With four user tasks there are three to pass over the fourth. -/
theorem exists_starving : ∃ system s, system.Reachable System.Permitted ∧ Good false system s ∧
    s.Stands [5, 4, 3, 1] [2] 5 5 false 1500 := by
  let tasks := List.replicate 4 SyscallArgs.zero.createTask
  obtain ⟨system, isStarted, good, -⟩ := exists_startedAt 0 0 tasks 0 (by decide)
  have initial := initial_atStart 0 0 tasks 0 (by decide)
  have stands : (atStart 0 0 tasks 0).2.Stands [1, 5, 4, 3, 2] [] 1 1 false 0 :=
    ⟨rfl, initial.sleepers, initial.running, initial.queued, initial.requested, initial.taken,
      fun sleeper member => by rw [initial.sleepers] at member; cases member⟩
  have nobody : ([] : List Pid) ≠ [] → (0 : AbsoluteTime).toNat + 1000 ≤ 0 ∧ 0 < 2 ^ 63 :=
    fun none => absurd rfl none
  -- The spin task has no turn on the way.
  have nothing : Passed system 1 [] [] 0 system (atStart 0 0 tasks 0).2 := passed_start good
  obtain ⟨_, _, passed₁, stands₁⟩ := passed_yield 0 nothing stands nobody (by decide) (by decide)
  obtain ⟨_, _, passed₂, stands₂⟩ := passed_yield 0 passed₁ stands₁ nobody (by decide) (by decide)
  obtain ⟨_, _, passed₃, stands₃⟩ := passed_yield 0 passed₂ stands₂ nobody (by decide) (by decide)
  obtain ⟨_, _, passed₄, stands₄⟩ := passed_yield 0 passed₃ stands₃ nobody (by decide) (by decide)
  obtain ⟨final, s, passed₅, stands₅⟩ := passed_sleep 0 passed₄ stands₄ (by decide) (by decide)
  exact ⟨final, s, ⟨system, System.started_iff.mpr ⟨_, isStarted⟩, passed₅.steps⟩, passed₅.good, stands₅⟩

/-- For any number of rounds there is a run of steps that the hardware permits in which a
task stays in the unscheduled queue and has no turn, while the spin task has one in every
round. -/
theorem ready_task_starves (n : Nat) (fits : 1000 * n + 2500 < 2 ^ 63) :
    ∃ start final : System, ∃ events, start.Reachable System.Permitted ∧
      3 ∈ start.kernel.unscheduled ∧ start.Waits System.Permitted 3 (rounds n) events n final ∧
      (turnsOf events).count 1 = n ∧ ((rounds n).flatMap Action.times).Pairwise (· ≤ ·) := by
  obtain ⟨start, s, reachable, good, stands⟩ := exists_starving
  obtain ⟨final, s', events, _, _, _, passed, -, counted⟩ := passed_rounds n fits (passed_start good) stands
  have ready : 3 ∈ start.kernel.unscheduled := by
    rw [good.unscheduled, stands.ring]
    decide
  exact ⟨start, final, events, reachable, ready, passed.run, counted, (rounds_ordered n (by omega)).1⟩

end Rounds

section Example

attribute [local instance] PicoSdk.reference Malloc.reference

/-- A thousand seconds. -/
theorem ready_task_starves_example : ∃ start final : System, ∃ events,
    start.Reachable System.Permitted ∧ 3 ∈ start.kernel.unscheduled ∧
      start.Waits System.Permitted 3 (rounds 1000000) events 1000000 final ∧
      (turnsOf events).count 1 = 1000000 ∧ ((rounds 1000000).flatMap Action.times).Pairwise (· ≤ ·) :=
  ready_task_starves 1000000 (by decide)

end Example

end Gkrtos
