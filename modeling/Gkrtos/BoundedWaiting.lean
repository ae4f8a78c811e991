import Gkrtos.Waiting
import Gkrtos.FairTurns

/-! How long a task in the unscheduled queue waits for its turn. The others have no more
turns before than there are places in front of it, one more for each task that lines up
behind the head, and a round more each time the head leaves the queue with the task next
in line. -/
namespace Gkrtos
open KernelRefinement RoundRobin

/-- How many tasks line up behind the head: a new one, or one that goes to sleep until the
time that means none. -/
def Action.joins : Action → Nat
  | .svc _ number args _ =>
    if number = syscallCreateTask ∨ number = syscallSleepUntil ∧ args.milliseconds = nilTime then 1 else 0
  | _ => 0

namespace Scheduler

variable {live : Finset Pid} {s s' : Scheduler} {task victim : Pid} {now : AbsoluteTime}

/-- The task stays where it is. -/
def Spares (s : Scheduler) (task : Pid) : Action → Prop
  | .svc _ number args _ => (number = syscallSleepUntil ∨ number = syscallDie → s.running ≠ task) ∧
    (number = syscallKill → args.pid ≠ task)
  | _ => True

theorem ring_length (invariant : Invariant live s) : s.ring.length ≤ configMaxTasks := by
  have distinct := invariant.placed.ring_nodup
  have small : s.ring.toFinset ⊆ Finset.range configMaxTasks := by
    intro task member
    have alive := (invariant.placed.mem_ring.mp (List.mem_toFinset.mp member)).1
    exact Finset.mem_range.mpr (invariant.inTable alive)
  calc
    s.ring.length = s.ring.toFinset.card := (List.toFinset_card_of_nodup distinct).symm
    _ ≤ (Finset.range configMaxTasks).card := Finset.card_le_card small
    _ = configMaxTasks := Finset.card_range configMaxTasks

theorem dequeue_ring (s : Scheduler) (task : Pid) :
    (s.dequeue task).ring = if s.deadline task = nilTime then s.ring.erase task else s.ring := by
  unfold dequeue
  split
  · rfl
  · rfl

/-- Somebody else is taken out of its queue. -/
theorem wait_dequeue (other : victim ≠ task) (member : task ∈ s.ring) :
    task ∈ (s.dequeue victim).ring ∧ wait configMaxTasks task (s.dequeue victim).ring ≤
      wait configMaxTasks task s.ring +
        if RoundRobin.Skips victim task s.ring then configMaxTasks - 1 else 0 := by
  rw [dequeue_ring]
  split
  · exact ⟨(List.mem_erase_of_ne other.symm).mpr member, wait_leave other member⟩
  · exact ⟨member, Nat.le_add_right _ _⟩

private theorem weaken {p q : Prop} [Decidable p] [Decidable q] (imp : p → q) :
    (if p then configMaxTasks - 1 else 0) ≤ if q then configMaxTasks - 1 else 0 := by
  by_cases holds : p
  · rw [if_pos holds, if_pos (imp holds)]
  · rw [if_neg holds]
    exact Nat.zero_le _

/-- The task is still in the queue, and the turns of the others and those that it has to
wait for now are at most so many more than it had to wait for. -/
def Waits (task : Pid) (cost : Nat) (s s' : Scheduler) : Prop :=
  task ∈ s'.ring ∧ wait configMaxTasks task s'.ring + (turnsOf s'.trace).length ≤
    wait configMaxTasks task s.ring + cost

theorem Waits.mono {cost cost' : Nat} (waits : Waits task cost s s') (le : cost ≤ cost') :
    Waits task cost' s s' :=
  ⟨waits.1, waits.2.trans (Nat.add_le_add_left le _)⟩

/-- A handler run that chooses nobody and leaves the queue alone. -/
theorem Waits.idle (member : task ∈ s.ring) (ring : s'.ring = s.ring) (turns : turnsOf s'.trace = []) :
    Waits task 0 s s' := by
  refine ⟨ring ▸ member, ?_⟩
  rw [ring, turns]
  exact Nat.le_refl _

/-- The task had no turn. -/
def Unchosen (task : Pid) (s : Scheduler) : Prop := ∀ time, Event.selected task time false ∉ s.trace

section Wait

variable [PicoSdk]

/-- The queue after a choice, without a task that was woken. -/
def turned (s : Scheduler) (now : AbsoluteTime) : List TaskPtr :=
  if ∃ first ∈ s.sleepers.head?, s.IsDue now first then s.ring else s.ring.rotate 1

/-- The head leaves the queue, and the task is next in line. -/
def Skips (s : Scheduler) (task : Pid) : Action → Prop
  | .svc _ number args now =>
    number = syscallSleepUntil ∧ RoundRobin.Skips s.running task s.ring ∨
    number = syscallDie ∧ RoundRobin.Skips s.running task (s.turned now) ∨
    number = syscallKill ∧ RoundRobin.Skips args.pid task (s.turned now)
  | _ => False

instance (s : Scheduler) (task : Pid) : DecidablePred (s.Skips task)
  | .svc _ _ _ _ => inferInstanceAs (Decidable (_ ∨ _))
  | .systick _ _ _ _ | .takePendsv | .pendsv _ _ _ => inferInstanceAs (Decidable False)

theorem turned_due {first : TaskPtr} (due : s.due now = some first) : s.turned now = s.ring :=
  if_pos ⟨first, due_eq_some.mp due⟩

theorem turned_idle (idle : s.due now = none) : s.turned now = s.ring.rotate 1 :=
  if_neg fun ⟨first, isHead, isDue⟩ => due_eq_none.mp idle first isHead isDue

/-- What a choice of somebody else costs. -/
theorem wait_select (invariant : Invariant live s) (member : task ∈ s.ring)
    (unchosen : s.due now = none → s.choice now ≠ task) :
    task ∈ s.turned now ∧ wait configMaxTasks task (s.turned now) +
        (turnsOf [.selected (s.choice now) now (s.due now).isSome]).length ≤
      wait configMaxTasks task s.ring := by
  cases due : s.due now with
  | some first =>
    rw [turned_due due]
    exact ⟨member, Nat.le_refl _⟩
  | none =>
    rw [turned_idle due]
    refine ⟨List.mem_rotate.mpr member, wait_turn member (ring_length invariant) ?_⟩
    intro head
    apply unchosen due
    rw [choice_idle due, List.headD_eq_head?_getD, head]
    rfl

/-- The woken task is at the end. -/
theorem select_ring (s : Scheduler) (now : AbsoluteTime) :
    (s.select now).ring = s.turned now ∨
      ∃ first, s.due now = some first ∧ (s.select now).ring = (Change.comeBack first).apply (s.turned now) := by
  cases due : s.due now with
  | some first =>
    refine .inr ⟨first, rfl, ?_⟩
    rw [select_due due, turned_due due]
    rfl
  | none =>
    left
    rw [select_idle due, turned_idle due]

theorem wait_selected (member : task ∈ s.turned now) :
    task ∈ (s.select now).ring ∧
      wait configMaxTasks task (s.select now).ring = wait configMaxTasks task (s.turned now) := by
  obtain same | ⟨first, -, back⟩ := s.select_ring now
  · rw [same]
    exact ⟨member, rfl⟩
  · rw [back]
    exact ⟨List.mem_append_left _ member, wait_comeBack member⟩

/-! ## What each handler run costs -/

theorem Unchosen.choice (chooses : s.Chooses now s') (unchosen : Unchosen task s') :
    s.due now = none → s.choice now ≠ task := by
  rintro idle rfl
  apply unchosen now
  rw [chooses.trace, idle]
  exact List.mem_append_right _ List.mem_cons_self

theorem Chooses.turns (chooses : s.Chooses now s') (quiet : s.trace = []) :
    turnsOf s'.trace = turnsOf [.selected (s.choice now) now (s.due now).isSome] := by
  rw [chooses.trace, quiet, List.nil_append]

theorem waits_yield (invariant : Invariant live s) (quiet : s.trace = []) (member : task ∈ s.ring)
    (unchosen : Unchosen task (s.yield now)) : Waits task 0 s (s.yield now) := by
  have chooses := yield_chooses s now
  obtain ⟨stands, bound⟩ := wait_select invariant member (unchosen.choice chooses)
  obtain ⟨inRing, same⟩ := wait_selected stands
  refine ⟨inRing, ?_⟩
  rw [chooses.turns quiet]
  show wait configMaxTasks task (s.select now).ring + _ ≤ _
  rw [same]
  exact bound

theorem enqueue_ring (s : Scheduler) (task : Pid) (read : ItemsAsTasks) :
    (s.enqueue task read).ring =
      if s.deadline task = nilTime then (Change.join task).apply s.ring else s.ring := by
  unfold enqueue
  split
  · show ListRefinement.insertSecond task s.ring = _
    cases s.ring with
    | nil => rfl
    | cons first rest => rfl
  · split
    · rfl
    · rfl

theorem wait_enqueue (read : ItemsAsTasks) (other : victim ≠ task) (member : task ∈ s.ring) :
    task ∈ (s.enqueue victim read).ring ∧ wait configMaxTasks task (s.enqueue victim read).ring ≤
      wait configMaxTasks task s.ring + if s.deadline victim = nilTime then 1 else 0 := by
  rw [enqueue_ring]
  split
  · refine ⟨?_, wait_join other member⟩
    obtain ⟨first, rest, shape⟩ := List.exists_cons_of_ne_nil (List.ne_nil_of_mem member)
    rw [shape] at member ⊢
    show task ∈ first :: victim :: rest
    exact (List.mem_cons.mp member).elim (fun same => same ▸ List.mem_cons_self)
      fun behind => List.mem_cons_of_mem _ (List.mem_cons_of_mem _ behind)
  · exact ⟨member, Nat.le_refl _⟩

theorem wait_postpone (deadline : AbsoluteTime) (read : ItemsAsTasks) (other : victim ≠ task)
    (member : task ∈ s.ring) :
    task ∈ (s.postpone victim deadline read).ring ∧
      wait configMaxTasks task (s.postpone victim deadline read).ring ≤
        wait configMaxTasks task s.ring + (if deadline = nilTime then 1 else 0) +
          if RoundRobin.Skips victim task s.ring then configMaxTasks - 1 else 0 := by
  obtain ⟨left, cost⟩ := wait_dequeue other member
  have written : ((s.dequeue victim).setDeadline victim deadline).deadline victim = deadline := by
    rw [setDeadline_deadline, if_pos rfl]
  obtain ⟨back, cost'⟩ := wait_enqueue (s := (s.dequeue victim).setDeadline victim deadline)
    read other left
  rw [written] at cost'
  have ring : ((s.dequeue victim).setDeadline victim deadline).ring = (s.dequeue victim).ring := rfl
  rw [ring] at cost'
  refine ⟨back, ?_⟩
  unfold postpone
  omega

theorem waits_sleepUntil {deadline : AbsoluteTime} {read : ItemsAsTasks} (invariant : Invariant live s)
    (quiet : s.trace = []) (alive : victim ∈ live) (notSpin : victim ≠ 1) (other : victim ≠ task)
    (member : task ∈ s.ring) (unchosen : Unchosen task (s.sleepUntil victim deadline now read)) :
    Waits task ((if deadline = nilTime then 1 else 0) +
        if RoundRobin.Skips victim task s.ring then configMaxTasks - 1 else 0)
      s (s.sleepUntil victim deadline now read) := by
  have postponed := invariant_postpone deadline read invariant alive notSpin
  have quiet' : (s.postpone victim deadline read).trace = [] :=
    (postpone_fields s victim deadline read).2.2.2.2.2.1.trans quiet
  obtain ⟨stands, cost⟩ := wait_postpone deadline read other member
  obtain ⟨inRing, bound⟩ := waits_yield postponed quiet' stands unchosen
  refine ⟨inRing, ?_⟩
  unfold sleepUntil
  omega

theorem waits_kill (invariant : Invariant live s) (quiet : s.trace = []) (other : victim ≠ task)
    (member : task ∈ s.ring) (unchosen : Unchosen task (s.kill victim now)) :
    Waits task (if RoundRobin.Skips victim task (s.turned now) then configMaxTasks - 1 else 0)
      s (s.kill victim now) := by
  have chooses := kill_chooses s victim now
  obtain ⟨stands, bound⟩ := wait_select invariant member (unchosen.choice chooses)
  have turned : (s.complete victim).turned now = s.turned now := by
    have due := (complete_choice s victim now).1
    cases nothing : s.due now with
    | some first => rw [turned_due nothing, turned_due (due.trans nothing)]; rfl
    | none => rw [turned_idle nothing, turned_idle (due.trans nothing)]; rfl
  have stands' : task ∈ (s.complete victim).turned now := turned ▸ stands
  obtain ⟨inRing, same⟩ := wait_selected stands'
  obtain ⟨left, cost⟩ := wait_dequeue other inRing
  have skips : RoundRobin.Skips victim task ((s.complete victim).select now).ring ↔
      RoundRobin.Skips victim task (s.turned now) := by
    obtain equal | ⟨first, -, back⟩ := (s.complete victim).select_ring now
    · rw [equal, turned]
    · rw [back, skips_comeBack other stands', turned]
  refine ⟨left, ?_⟩
  rw [chooses.turns quiet]
  rw [same, turned] at cost
  simp only [skips] at cost
  show wait configMaxTasks task (((s.complete victim).select now).dequeue victim).ring + _ ≤ _
  omega

theorem waits_createTask {args : CreateTaskArgs} {read : ItemsAsTasks} (invariant : Invariant live s)
    (quiet : s.trace = []) (member : task ∈ s.ring) : Waits task 1 s (s.createTask args read) := by
  have new : s.maxPid ≠ task := by
    rintro rfl
    exact Nat.lt_irrefl _ (invariant.numbered.created _ (invariant.placed.mem_ring.mp member).1)
  obtain ⟨stands, cost⟩ := wait_enqueue (s := { s with maxPid := s.maxPid + 1 }.change s.maxPid
    (newborn s.maxPid args)) read new member
  have still : (s.createTask args read).trace = [] :=
    (createTask_fields s args read).2.2.2.2.2.trans quiet
  rw [if_pos (newborn_awake invariant.numbered)] at cost
  refine ⟨stands, ?_⟩
  rw [still]
  exact cost

/-- What a handler run costs at most. -/
def cost (s : Scheduler) (task : Pid) (action : Action) : Nat :=
  action.joins + if s.Skips task action then configMaxTasks - 1 else 0

/-- The step lemma. -/
theorem waits_step {action : Action} (invariant : Invariant live s) (legal : s.Legal live action)
    (spares : s.Spares task action) (member : task ∈ s.ring) (unchosen : Unchosen task (s.step action)) :
    Waits task (s.cost task action) s (s.step action) := by
  have good := invariant.of_record [] s.requested s.taken
  have clear : ({ s with trace := [] } : Scheduler).trace = [] := rfl
  have idle : Waits task 0 s { s with trace := [] } := .idle member rfl rfl
  cases action with
  | svc stackptr number args now =>
    rcases legal with rfl | ⟨rfl, room⟩ | ⟨rfl, alive, notSpin⟩ | ⟨rfl, alive, notSpin⟩ |
      ⟨rfl, alive, notSpin⟩ | unknown
    · exact (waits_yield good clear member unchosen).mono (Nat.zero_le _)
    · exact (waits_createTask good clear member).mono (Nat.le_add_right _ _)
    · have other := spares.1 (.inl rfl)
      refine (waits_sleepUntil good clear alive notSpin other member unchosen).mono ?_
      refine Nat.add_le_add ?_ (weaken fun skips => .inl ⟨rfl, skips⟩)
      by_cases never : args.milliseconds = nilTime
      · rw [if_pos never, Action.joins, if_pos (.inr ⟨rfl, never⟩)]
      · rw [if_neg never]
        exact Nat.zero_le _
    · have dies : ({ s with trace := [] } : Scheduler).pid s.running = s.running := invariant.pid alive
      have other := spares.1 (.inr rfl)
      change Unchosen task (({ s with trace := [] } : Scheduler).kill
        (({ s with trace := [] } : Scheduler).pid s.running) now) at unchosen
      show Waits task _ s (({ s with trace := [] } : Scheduler).kill
        (({ s with trace := [] } : Scheduler).pid s.running) now)
      rw [dies] at unchosen ⊢
      refine (waits_kill good clear other member unchosen).mono ?_
      exact (weaken fun skips => .inr (.inl ⟨rfl, skips⟩)).trans (Nat.le_add_left _ _)
    · have other := spares.2 rfl
      refine (waits_kill good clear other member unchosen).mono ?_
      exact (weaken fun skips => .inr (.inr ⟨rfl, skips⟩)).trans (Nat.le_add_left _ _)
    · have still : s.step (.svc stackptr number args now) = { s with trace := [] } :=
        syscall_unknown unknown _ args now
      rw [still]
      exact idle.mono (Nat.zero_le _)
  | systick stackptr now now' now'' =>
    change Unchosen task (Scheduler.systick _ now now' now'') at unchosen
    show Waits task _ s (Scheduler.systick _ now now' now'')
    unfold systick at unchosen ⊢
    split_ifs at unchosen ⊢
    · exact (waits_yield good clear member unchosen).mono (Nat.zero_le _)
    · exact idle.mono (Nat.zero_le _)
  | takePendsv => exact idle.mono (Nat.zero_le _)
  | pendsv stackptr now now' =>
    show Waits task _ s { ({ s with trace := [] } : Scheduler).pendsv stackptr now now' with taken := false }
    unfold pendsv
    split_ifs
    · exact idle.mono (Nat.zero_le _)
    · exact idle.mono (Nat.zero_le _)

end Wait

end Scheduler

section Runs

variable [PicoSdk]

/-- The unscheduled queue after a choice, without a task that was woken. -/
def Kernel.turned (kernel : Kernel) (now : AbsoluteTime) : List TaskPtr :=
  if ∃ first ∈ kernel.scheduled.head?, kernel.IsDue now first then kernel.unscheduled
  else kernel.unscheduled.rotate 1

/-- The task neither goes to sleep nor dies. -/
def System.Spares (task : Pid) (system : System) : Action → Prop
  | .svc _ number args _ =>
    (number = syscallSleepUntil ∨ number = syscallDie → system.kernel.running ≠ task) ∧
      (number = syscallKill → args.pid ≠ task)
  | _ => True

/-- The head leaves the unscheduled queue, and the task is next in line. -/
def System.Skips (task : Pid) (system : System) : Action → Prop
  | .svc _ number args now =>
    number = syscallSleepUntil ∧ RoundRobin.Skips system.kernel.running task system.kernel.unscheduled ∨
    number = syscallDie ∧ RoundRobin.Skips system.kernel.running task (system.kernel.turned now) ∨
    number = syscallKill ∧ RoundRobin.Skips args.pid task (system.kernel.turned now)
  | _ => False

instance (task : Pid) (system : System) : DecidablePred (system.Skips task)
  | .svc _ _ _ _ => inferInstanceAs (Decidable (_ ∨ _))
  | .systick _ _ _ _ | .takePendsv | .pendsv _ _ _ => inferInstanceAs (Decidable False)

variable [Malloc]

/-- A run in which the task stays and has had no turn yet: its steps, what they recorded,
and how often the task was skipped. -/
inductive System.Waits (allowed : System → Action → Prop) (task : Pid) (system : System) :
    List Action → List Event → Nat → System → Prop where
  | now : Waits allowed task system [] [] 0 system
  | later {actions : List Action} {events : List Event} {skips : Nat} {between final : System}
    {action : Action} (before : Waits allowed task system actions events skips between)
    (isAllowed : allowed between action) (spares : between.Spares task action)
    (stepped : between.step action = some final)
    (unchosen : ∀ time, Event.selected task time false ∉ final.kernel.trace) :
    Waits allowed task system (actions ++ [action]) (events ++ final.kernel.trace)
      (skips + if between.Skips task action then 1 else 0) final

variable {mask : InterruptMask} {system final : System} {s : Scheduler} {task : Pid} {action : Action}
variable {actions : List Action} {events : List Event} {skips : Nat}

omit [Malloc] in
theorem skips_iff (good : Good mask system s) : system.Skips task action ↔ s.Skips task action := by
  obtain ⟨⟨sound, rfl, free, enabled, log⟩, invariant⟩ := good
  cases action <;> exact Iff.rfl

omit [PicoSdk] [Malloc] in
theorem spares_iff (good : Good mask system s) : system.Spares task action ↔ s.Spares task action := by
  obtain ⟨⟨sound, rfl, free, enabled, log⟩, invariant⟩ := good
  cases action <;> exact Iff.rfl

/-- The run lemma. -/
theorem waits_run (good : Good mask system s) (member : task ∈ s.ring)
    (run : system.Waits System.Legal task actions events skips final) :
    ∃ mask s', Good mask final s' ∧ task ∈ s'.ring ∧
      wait configMaxTasks task s'.ring + (turnsOf events).length ≤
        wait configMaxTasks task s.ring + (actions.map Action.joins).sum + (configMaxTasks - 1) * skips := by
  induction run with
  | now => exact ⟨mask, s, good, member, Nat.le_refl _⟩
  | @later actions events skips between final action before legal spares stepped unchosen ih =>
    obtain ⟨mask', s', good', stands, bound⟩ := ih
    have good'' := (good_step good' legal stepped).1
    rw [good''.trace] at unchosen ⊢
    obtain ⟨still, bound'⟩ := s'.waits_step good'.invariant ((legal_iff good').mp legal)
      ((spares_iff good').mp spares) stands unchosen
    refine ⟨_, _, good'', still, ?_⟩
    unfold Scheduler.cost at bound'
    simp only [skips_iff good', Nat.mul_add, turnsOf_append, List.length_append, List.map_append,
      List.sum_append, List.map_singleton, List.sum_singleton]
    split_ifs at bound' ⊢
    · omega
    · omega

/-- A task in the unscheduled queue that stays there has its turn after at most as many
turns of others as its place says, one more for every task that lines up behind the head,
and a whole round for every time it is skipped. -/
theorem bounded_waiting (reachable : system.Reachable System.Legal)
    (member : task ∈ system.kernel.unscheduled)
    (run : system.Waits System.Legal task actions events skips final) :
    (turnsOf events).length < wait configMaxTasks task system.kernel.unscheduled +
      (actions.map Action.joins).sum + (configMaxTasks - 1) * skips := by
  obtain ⟨mask, s, good⟩ := reachable_good reachable
  rw [good.unscheduled] at member ⊢
  obtain ⟨-, s', -, -, bound⟩ := waits_run good member run
  have more : 0 < wait configMaxTasks task s'.ring := wait_pos (by decide)
  omega

/-- A step of the scheduler makes such a run longer. -/
theorem waits_later {allowed : System → Action → Prop} {start : System}
    (before : start.Waits allowed task actions events skips system) (good : Good mask system s)
    (legal : s.Legal system.live action) (isAllowed : allowed system action)
    (spares : s.Spares task action) (unchosen : (s.step action).Unchosen task) :
    ∃ next, Good (s.maskAfter mask action) next (s.step action) ∧
      next.live = s.liveAfter system.live action ∧
      start.Waits allowed task (actions ++ [action]) (events ++ (s.step action).trace)
        (skips + if s.Skips task action then 1 else 0) next := by
  obtain ⟨next, stepped, good', live⟩ := step_simulates good ((legal_iff good).mpr legal)
  have later := before.later isAllowed ((spares_iff good).mpr spares) stepped
    (by rw [good'.trace]; exact unchosen)
  rw [good'.trace] at later
  simp only [skips_iff good] at later
  exact ⟨next, good', live, later⟩

end Runs

section Example

attribute [local instance] PicoSdk.reference Malloc.reference

private def yields : Action := .svc 0 syscallYield .zero 100

private theorem yields_unchosen : ((atStart 0 0 (List.replicate 2 SyscallArgs.zero.createTask) 0).2.step
    yields).trace = [.selected 3 100 false] := by
  decide +kernel

theorem bounded_waiting_example : ∃ system final : System, system.Reachable System.Legal ∧
    system.kernel.unscheduled = [1, 3, 2] ∧
      system.Waits System.Legal 2 [yields] [.selected 3 100 false] 0 final ∧
      (turnsOf [.selected 3 100 false]).length < wait configMaxTasks 2 system.kernel.unscheduled +
        ([yields].map Action.joins).sum + (configMaxTasks - 1) * 0 := by
  obtain ⟨system, isStarted, good, live⟩ := exists_startedAt 0 0
    (List.replicate 2 SyscallArgs.zero.createTask) 0 (by decide)
  have reachable : system.Reachable System.Legal :=
    ⟨system, System.started_iff.mpr ⟨_, isStarted⟩, .refl⟩
  have legal : Scheduler.Legal (atStart 0 0 (List.replicate 2 SyscallArgs.zero.createTask) 0).2
      system.live yields := .inl rfl
  obtain ⟨final, -, -, run⟩ := waits_later
    (.now : system.Waits System.Legal 2 [] [] 0 system) good legal
    ((legal_iff good).mpr legal) ⟨by decide, by decide⟩
    (by rw [Scheduler.Unchosen, yields_unchosen]; simp)
  rw [yields_unchosen] at run
  have ring : system.kernel.unscheduled = [1, 3, 2] := good.unscheduled.trans (by decide +kernel)
  exact ⟨system, final, reachable, ring, run, bounded_waiting reachable (by rw [ring]; decide) run⟩

end Example

end Gkrtos
