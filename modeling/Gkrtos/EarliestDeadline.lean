import Gkrtos.Runs

/-! Earliest deadline first. The kernel looks at the head of the scheduled queue
only, so the queue has to be sorted by next run time. Removals keep it sorted.
An insertion that does not go first goes behind the first or the second task,
and which of the two depends on what lies in memory behind the list items: it
keeps the queue sorted when that place happens to be the right one. A queue left
unsorted later hides a due task behind one that is not. -/
namespace Gkrtos.Scheduler
open ListRefinement

/-! ## Sorted insertion -/

section Insertion

variable {α : Type} {key : α → Nat} {queue : List α} {item : α}

/-- Ordered by key, the least first. -/
def SortedBy (key : α → Nat) (queue : List α) : Prop := queue.Pairwise fun a b => key a ≤ key b

theorem sortedBy_congr {key' : α → Nat} (sorted : SortedBy key queue)
    (same : ∀ item ∈ queue, key' item = key item) : SortedBy key' queue := by
  apply List.Pairwise.imp_of_mem _ sorted
  intro first second firstMember secondMember le
  rw [same first firstMember, same second secondMember]
  exact le

/-- In front of a sorted queue it is enough to compare with the head. -/
theorem sortedBy_cons (sorted : SortedBy key queue) (least : ∀ first ∈ queue.head?, key item ≤ key first) :
    SortedBy key (item :: queue) := by
  apply List.pairwise_cons.mpr
  constructor
  · cases queue with
    | nil => simp
    | cons first rest =>
      have le : key item ≤ key first := least first (by simp)
      intro other member
      cases List.mem_cons.mp member with
      | inl same =>
        rw [same]
        exact le
      | inr behind => exact Nat.le_trans le ((List.pairwise_cons.mp sorted).1 other behind)
  · exact sorted

/-- The place an insertion takes behind the first element is in order. -/
def PlacedInOrder (key : α → Nat) (behindFirst : Bool) (item : α) (queue : List α) : Prop :=
  if behindFirst then ∀ second ∈ queue[1]?, key item ≤ key second
  else (∀ second ∈ queue[1]?, key second ≤ key item) ∧ ∀ third ∈ queue[2]?, key item ≤ key third

instance (key : α → Nat) (behindFirst : Bool) (item : α) (queue : List α) :
    Decidable (PlacedInOrder key behindFirst item queue) :=
  inferInstanceAs (Decidable (ite _ _ _))

theorem insertBehind_sorted {behindFirst : Bool} (sorted : SortedBy key queue)
    (notFirst : ∀ first ∈ queue.head?, key first ≤ key item)
    (inOrder : PlacedInOrder key behindFirst item queue) :
    SortedBy key (insertBehind behindFirst item queue) := by
  rcases queue with _ | ⟨first, _ | ⟨second, rest⟩⟩
  · exact sortedBy_cons sorted (by simp)
  · have before : key first ≤ key item := notFirst first (by simp)
    exact sortedBy_cons (sortedBy_cons .nil (by simp)) (by simpa using before)
  · have before : key first ≤ key item := notFirst first (by simp)
    obtain ⟨firstLe, tail⟩ := List.pairwise_cons.mp sorted
    have order : key first ≤ key second := firstLe second (by simp)
    rw [insertBehind]
    cases behindFirst with
    | true =>
      have smaller : key item ≤ key second := inOrder second (by simp)
      have inserted : SortedBy key (item :: second :: rest) :=
        sortedBy_cons tail (by simpa using smaller)
      exact sortedBy_cons inserted (by simpa using before)
    | false =>
      obtain ⟨beforeItem, behindItem⟩ := inOrder
      have larger : key second ≤ key item := beforeItem second (by simp)
      have rest_sorted := (List.pairwise_cons.mp tail).2
      have inserted : SortedBy key (item :: rest) := by
        apply sortedBy_cons rest_sorted
        intro next member
        exact behindItem next (by simpa [List.head?_eq_getElem?] using member)
      have behind : SortedBy key (second :: item :: rest) :=
        sortedBy_cons inserted (by simpa using larger)
      exact sortedBy_cons behind (by simpa using order)

end Insertion

/-! ## The scheduled queue -/

variable {live : Finset Pid} {s s' : Scheduler} {task : TaskPtr}

/-- The scheduled queue is sorted by next run time, and no next run time is
beyond the end of time. -/
structure Ordered (s : Scheduler) : Prop where
  sorted : SortedBy (fun task => (s.deadline task).toNat) s.sleepers
  bounded : ∀ task ∈ s.sleepers, (s.deadline task).toNat < 2 ^ 63

/-- Leaving sleepers out, and touching no other deadline, keeps the order. -/
theorem Ordered.of_sublist (ordered : Ordered s) (sub : s'.sleepers.Sublist s.sleepers)
    (same : ∀ task ∈ s'.sleepers, s'.deadline task = s.deadline task) : Ordered s' := by
  constructor
  · exact sortedBy_congr (List.Pairwise.sublist sub ordered.sorted)
      fun task member => congrArg UInt64.toNat (same task member)
  · intro task member
    rw [same task member]
    exact ordered.bounded task (sub.subset member)

/-- The scheduled queue loses a task that is dequeued, asleep or not. -/
theorem dequeue_sleepers (placed : Placed live s) (task : TaskPtr) :
    (s.dequeue task).sleepers = s.sleepers.erase task := by
  by_cases awake : s.deadline task = nilTime
  · have notAsleep : task ∉ s.sleepers := fun member => (placed.mem_sleepers.mp member).2 awake
    rw [dequeue_awake awake, List.erase_of_not_mem notAsleep]
  · rw [dequeue_asleep awake]

theorem ordered_dequeue (ordered : Ordered s) : Ordered (s.dequeue task) := by
  have deadlines := deadline_of_table (dequeue_fields s task).1
  apply ordered.of_sublist
  · by_cases awake : s.deadline task = nilTime
    · rw [dequeue_awake awake]
    · rw [dequeue_asleep awake]
      exact List.erase_sublist
  · exact fun other _ => congrFun deadlines other

theorem ordered_pendsv {stackptr : Word} {now now' : AbsoluteTime} (ordered : Ordered s) :
    Ordered (s.pendsv stackptr now now') := by
  unfold pendsv
  split
  · exact ordered
  · apply ordered.of_sublist
    · exact List.Sublist.refl _
    · exact fun other _ => congrFun (contextSwitch_pid_deadline s stackptr now now').2 other

variable [PicoSdk] {now now' now'' : AbsoluteTime} {read : ItemsAsTasks}

theorem ordered_select (ordered : Ordered s) (placed : Placed live s) : Ordered (s.select now) := by
  cases due : s.due now with
  | none =>
    rw [select_idle due]
    exact ⟨ordered.sorted, ordered.bounded⟩
  | some first =>
    apply ordered.of_sublist
    · rw [select_due due]
      exact List.erase_sublist
    · intro other member
      have left : other ∈ s.sleepers.erase first := by simpa [select_due due] using member
      have different : first ≠ other :=
        ((placed.sleepers_nodup.mem_erase_iff).mp left).1.symm
      rw [select_deadline, due, if_neg (by simpa using different)]

theorem ordered_enqueue (ordered : Ordered s) (small : (s.deadline task).toNat < 2 ^ 63)
    (inOrder : s.deadline task ≠ nilTime →
      (∀ first ∈ s.sleepers.head?, s.deadline first ≤ s.deadline task) →
      PlacedInOrder (fun task => (s.deadline task).toNat) (queueSort (s.table task) read) task
        s.sleepers) :
    Ordered (s.enqueue task read) := by
  have deadlines := deadline_of_table (enqueue_fields s task read).1
  constructor
  · rw [deadlines]
    by_cases awake : s.deadline task = nilTime
    · rw [enqueue_awake awake]
      exact ordered.sorted
    by_cases goesFirst : s.GoesFirst task
    · rw [enqueue_first awake goesFirst]
      obtain ⟨first, head, earlier⟩ := goesFirst
      apply sortedBy_cons ordered.sorted
      intro other member
      obtain rfl : first = other := Option.mem_unique head member
      have firstSmall := ordered.bounded first (List.mem_of_head? head)
      exact Nat.le_of_lt ((diff_neg_iff firstSmall small).mp earlier)
    · have notFirst : ∀ first ∈ s.sleepers.head?, s.deadline first ≤ s.deadline task := by
        intro first head
        apply Nat.le_of_not_lt
        intro earlier
        have firstSmall := ordered.bounded first (List.mem_of_head? head)
        exact goesFirst ⟨first, head, (diff_neg_iff firstSmall small).mpr earlier⟩
      rw [enqueue_behind awake goesFirst]
      exact insertBehind_sorted ordered.sorted notFirst (inOrder awake notFirst)
  · rw [deadlines]
    intro other member
    by_cases same : other = task
    · rw [same]
      exact small
    · have old : other ∈ s.sleepers := by
        have counts := (enqueue_count s task other read).2
        simp only [same, false_and, if_false, Nat.add_zero] at counts
        rwa [← List.count_pos_iff, counts, List.count_pos_iff] at member
      exact ordered.bounded other old

/-- The place the deadline gets among the other sleepers is in order: it goes
first, or `queue_sort` puts it behind the first one and the second is not
earlier, or behind the second one and that is not later and the third not
earlier. -/
def FitsInOrder (s : Scheduler) (task : TaskPtr) (deadline : AbsoluteTime) (read : ItemsAsTasks) :
    Prop :=
  let others := s.sleepers.erase task
  (∀ first ∈ others.head?, s.deadline first ≤ deadline) →
    if queueSort { s.table task with nextRunTime := deadline } read then
      ∀ second ∈ others[1]?, deadline ≤ s.deadline second
    else
      (∀ second ∈ others[1]?, s.deadline second ≤ deadline) ∧
        ∀ third ∈ others[2]?, deadline ≤ s.deadline third

/-- Of the inserted task `queue_sort` reads the next run time only. -/
theorem queueSort_congr {inserting inserting' : Task}
    (same : inserting.nextRunTime = inserting'.nextRunTime) (read : ItemsAsTasks) :
    queueSort inserting read = queueSort inserting' read := by
  simp [queueSort, internalTaskingIsScheduledTask, same]

/-- What `FitsInOrder` says about the queue holds for any keys that agree with the
deadlines on the other tasks. -/
theorem placedInOrder_of_fits {deadline : AbsoluteTime} {key : TaskPtr → AbsoluteTime}
    (fits : s.FitsInOrder task deadline read) (own : key task = deadline)
    (others : ∀ {index : Nat}, ∀ sleeper ∈ (s.sleepers.erase task)[index]?,
      key sleeper = s.deadline sleeper)
    (notFirst : ∀ first ∈ (s.sleepers.erase task).head?, key first ≤ key task) :
    PlacedInOrder (fun sleeper => (key sleeper).toNat)
      (queueSort { s.table task with nextRunTime := deadline } read) task
      (s.sleepers.erase task) := by
  have first : ∀ first ∈ (s.sleepers.erase task).head?, s.deadline first ≤ deadline := by
    intro first head
    have before := notFirst first head
    rwa [own, others first (List.head?_eq_getElem? ▸ head)] at before
  have fits := fits first
  unfold PlacedInOrder
  split at fits
  case isTrue behindFirst =>
    rw [if_pos behindFirst]
    intro second member
    beta_reduce
    rw [own, others second member]
    exact fits second member
  case isFalse behindSecond =>
    rw [if_neg behindSecond]
    constructor
    · intro second member
      beta_reduce
      rw [own, others second member]
      exact fits.1 second member
    · intro third member
      beta_reduce
      rw [own, others third member]
      exact fits.2 third member

theorem ordered_postpone {deadline : AbsoluteTime} (ordered : Ordered s)
    (invariant : Invariant live s) (alive : task ∈ live) (small : deadline.toNat < 2 ^ 63)
    (fits : s.FitsInOrder task deadline read) : Ordered (s.postpone task deadline read) := by
  have removed := placed_dequeue invariant.placed alive
  have absent : task ∉ (s.dequeue task).sleepers := by
    intro member
    exact Finset.notMem_erase task live (removed.mem_sleepers.mp member).1
  have left := dequeue_sleepers invariant.placed task
  have written : ((s.dequeue task).setDeadline task deadline).deadline task = deadline := by
    rw [setDeadline_deadline, if_pos rfl]
  have set : Ordered ((s.dequeue task).setDeadline task deadline) := by
    have left : Ordered (s.dequeue task) := ordered_dequeue ordered
    apply left.of_sublist
    · exact List.Sublist.refl _
    · intro other member
      rw [setDeadline_deadline, if_neg]
      rintro rfl
      exact absent member
  apply ordered_enqueue set
  · rw [written]
    exact small
  · intro _ notFirst
    have place : ((s.dequeue task).setDeadline task deadline).sleepers = s.sleepers.erase task := left
    have others : ∀ {index : Nat}, ∀ sleeper ∈ (s.sleepers.erase task)[index]?,
        ((s.dequeue task).setDeadline task deadline).deadline sleeper = s.deadline sleeper := by
      intro index sleeper member
      rw [setDeadline_deadline, if_neg, deadline_of_table (dequeue_fields s task).1]
      rintro rfl
      exact absent (left ▸ List.mem_of_getElem? member)
    have sort : queueSort (((s.dequeue task).setDeadline task deadline).table task) read =
        queueSort { s.table task with nextRunTime := deadline } read :=
      queueSort_congr written read
    rw [place] at notFirst
    rw [place, sort]
    exact placedInOrder_of_fits fits written others notFirst

theorem ordered_yield (ordered : Ordered s) (placed : Placed live s) : Ordered (s.yield now) := by
  obtain ⟨sorted, bounded⟩ : Ordered (s.select now) := ordered_select ordered placed
  exact ⟨sorted, bounded⟩

theorem ordered_kill (ordered : Ordered s) (invariant : Invariant live s) (alive : task ∈ live) :
    Ordered (s.kill task now) := by
  have dying : Ordered (s.complete task) := by
    apply ordered.of_sublist
    · exact List.Sublist.refl _
    · exact fun other _ => congrFun (change_deadline_eq s task _ rfl) other
  have selected : Ordered ((s.complete task).select now) :=
    ordered_select dying (invariant_complete invariant alive).placed
  obtain ⟨sorted, bounded⟩ : Ordered (((s.complete task).select now).dequeue task) :=
    ordered_dequeue selected
  exact ⟨sorted, bounded⟩

theorem ordered_createTask {args : CreateTaskArgs} (ordered : Ordered s)
    (numbered : Numbered live s) : Ordered (s.createTask args read) := by
  have deadlines : ({ s with maxPid := s.maxPid + 1 }.change s.maxPid
      (newborn s.maxPid args)).deadline = s.deadline := change_deadline_eq _ _ _ rfl
  have fresh := numbered.fresh s.maxPid (Nat.le_refl _)
  apply ordered_enqueue
  · exact ordered.of_sublist (List.Sublist.refl _) fun other _ => congrFun deadlines other
  · rw [deadlines, fresh]
    decide
  · intro asleep
    rw [deadlines, fresh] at asleep
    exact absurd rfl asleep

/-- What keeps the order: the caller's deadline gets the right place. -/
def SleepsInOrder (s : Scheduler) : Action → Prop
  | .svc _ number args _ => number = syscallSleepUntil →
    s.FitsInOrder s.running args.milliseconds args.itemsAsTasks
  | _ => True

instance (s : Scheduler) (task : TaskPtr) (deadline : AbsoluteTime) (read : ItemsAsTasks) :
    Decidable (s.FitsInOrder task deadline read) :=
  inferInstanceAs (Decidable (_ → _))

instance (s : Scheduler) : DecidablePred s.SleepsInOrder
  | .svc _ _ _ _ => inferInstanceAs (Decidable (_ → _))
  | .systick _ _ _ _ | .takePendsv | .pendsv _ _ _ => inferInstanceAs (Decidable True)

theorem ordered_step {action : Action} (ordered : Ordered s) (invariant : Invariant live s)
    (legal : s.Legal live action) (ends : action.SleepEnds) (inOrder : s.SleepsInOrder action) :
    Ordered (s.step action) := by
  have cleared : Ordered { s with trace := [] } := ⟨ordered.sorted, ordered.bounded⟩
  have good := invariant.of_record [] s.requested s.taken
  have effect := step_effect invariant legal
  generalize s.liveAfter live action = live', s.step action = s' at effect ⊢
  cases effect with
  | idle => exact cleared
  | yield _ now => exact ordered_yield cleared good.placed
  | createTask stackptr args now room => exact ordered_createTask cleared good.numbered
  | sleepUntil stackptr args now alive notSpin =>
    have postponed := ordered_postpone cleared good alive (ends rfl).2 (inOrder rfl)
    exact ordered_yield postponed (invariant_postpone _ _ good alive notSpin).placed
  | kill _ victim now alive notSpin => exact ordered_kill cleared good alive
  | takePendsv => exact ⟨ordered.sorted, ordered.bounded⟩
  | pendsv stackptr now now' =>
    obtain ⟨sorted, bounded⟩ := ordered_pendsv cleared
    exact ⟨sorted, bounded⟩

end Gkrtos.Scheduler

namespace Gkrtos
open KernelRefinement Stateful

/-! ## Runs of the kernel -/

/-- Legal steps in which tasks sleep until times before the end of time. -/
def System.Sleeps [PicoSdk] [Malloc] (system : System) (action : Action) : Prop :=
  system.Legal action ∧ action.SleepEnds

/-- A sleep that does not go to the head of the scheduled queue goes behind the
first or the second of the other tasks there, as `queue_sort` says, and next to
no task that should be on its other side. -/
def System.FitsInOrder [PicoSdk] (system : System) : Action → Prop
  | .svc _ syscall args _ => syscall = syscallSleepUntil →
    let others := system.kernel.scheduled.erase system.kernel.running
    let caller := system.kernel.taskList system.kernel.running
    (∀ first ∈ others.head?, system.kernel.nextRunTime first ≤ args.milliseconds) →
      if queueSort { caller with nextRunTime := args.milliseconds } args.itemsAsTasks then
        ∀ second ∈ others[1]?, args.milliseconds ≤ system.kernel.nextRunTime second
      else
        (∀ second ∈ others[1]?, system.kernel.nextRunTime second ≤ args.milliseconds) ∧
          ∀ third ∈ others[2]?, args.milliseconds ≤ system.kernel.nextRunTime third
  | _ => True

def System.SleepsInOrder [PicoSdk] [Malloc] (system : System) (action : Action) : Prop :=
  system.Sleeps action ∧ system.FitsInOrder action

/-- When a scheduled task is to run within a systick period, rescheduling is
required and the task that comes next is one with the earliest next run time. -/
def Kernel.EarliestFirst [PicoSdk] [Malloc] (kernel : Kernel) (now : AbsoluteTime) : Prop :=
  (∃ task ∈ kernel.scheduled, (kernel.nextRunTime task).toNat < now.toNat + 1000) →
    (∀ earlier, ∃ kernel', taskingRescheduleRequired earlier now kernel = .ok true kernel') ∧
    ∃ next kernel', internalTaskingGetNextTask now kernel = .ok next kernel' ∧
      next ∈ kernel.scheduled ∧
      ∀ task ∈ kernel.scheduled, kernel.nextRunTime next ≤ kernel.nextRunTime task

section Runs

variable [PicoSdk] [Malloc]

/-- The scheduler's condition is the kernel's. -/
theorem sleepsInOrder_iff {mask : InterruptMask} {system : System} {s : Scheduler} {action : Action}
    (good : Good mask system s) : system.SleepsInOrder action ↔
      s.Legal system.live action ∧ action.SleepEnds ∧ s.SleepsInOrder action := by
  have legal : system.Legal action ↔ s.Legal system.live action := legal_iff good
  have fits : system.FitsInOrder action ↔ s.SleepsInOrder action := by
    obtain ⟨⟨sound, rfl, free, enabled, log⟩, invariant⟩ := good
    cases action <;> exact Iff.rfl
  rw [System.SleepsInOrder, System.Sleeps, legal, fits, and_assoc]

theorem reachable_ordered {system : System} (reachable : system.Reachable System.SleepsInOrder) :
    ∃ mask s, Good mask system s ∧ s.Ordered := by
  apply reachable_induction (fun _ _ s => s.Ordered) _ _ _ reachable
  · exact fun system action allowed => allowed.1.1
  · intro live s initial
    constructor
    · rw [initial.sleepers]
      exact .nil
    · simp [initial.sleepers]
  · intro mask system s action good allowed ordered
    obtain ⟨legal, ends, inOrder⟩ := (sleepsInOrder_iff good).mp allowed
    exact Scheduler.ordered_step ordered good.invariant legal ends inOrder

theorem earliest_deadline_first (system : System)
    (reachable : system.Reachable System.SleepsInOrder) (now : AbsoluteTime)
    (representable : now.toNat + 1000 < 2 ^ 63) : system.kernel.EarliestFirst now := by
  obtain ⟨mask, s, good, ordered⟩ := reachable_ordered reachable
  obtain ⟨outside, invariant⟩ := good
  rintro ⟨task, scheduled, near⟩
  have shown := outside.shows
  have deadlines : system.kernel.nextRunTime = s.deadline := shown ▸ rfl
  have sleepers : system.kernel.scheduled = s.sleepers := shown ▸ rfl
  rw [sleepers] at scheduled ⊢
  rw [deadlines] at near ⊢
  obtain ⟨first, rest, shape⟩ := List.exists_cons_of_ne_nil (List.ne_nil_of_mem scheduled)
  have sorted := ordered.sorted
  rw [shape] at sorted
  have least : ∀ other ∈ s.sleepers, s.deadline first ≤ s.deadline other := by
    intro other member
    rw [shape] at member
    cases List.mem_cons.mp member with
    | inl same => exact same ▸ UInt64.le_refl _
    | inr behind => exact (List.pairwise_cons.mp sorted).1 other behind
  have member : first ∈ s.sleepers := by simp [shape]
  have isDue : s.IsDue now first := by
    rw [Scheduler.isDue_iff representable (ordered.bounded first member)]
    exact Nat.lt_of_le_of_lt (least task scheduled) near
  have due : s.due now = some first := Scheduler.due_eq_some.mpr ⟨by simp [shape], isDue⟩
  constructor
  · intro earlier
    have running := Nat.lt_of_lt_of_le invariant.numbered.running invariant.numbered.bound
    obtain ⟨kernel', run, -⟩ := rescheduleRequired_simulates earlier now system.kernel s outside
      ⟨running, sleepers_inTable invariant⟩
    have required : s.RescheduleRequired earlier now := .inr ⟨first, by simp [shape], isDue⟩
    exact ⟨kernel', by simpa [required] using run⟩
  · obtain ⟨kernel', run, -⟩ := getNextTask_simulates now system.kernel s outside (choosable invariant)
    refine ⟨first, kernel', ?_, member, least⟩
    simpa [Scheduler.choice_due due] using run

end Runs

section Example

attribute [local instance] PicoSdk.reference Malloc.reference

private def yieldAt (now : AbsoluteTime) : Action := .svc 0 syscallYield .zero now

private def sleepAt (deadline now : AbsoluteTime) : Action :=
  .svc 0 syscallSleepUntil { SyscallArgs.zero with milliseconds := deadline } now

/-- Two of five tasks fall asleep, the second one for longer. -/
private def orderedRun : List Action := [
  yieldAt 100, .takePendsv, .pendsv 0 101 102, sleepAt 10000 200, .takePendsv, .pendsv 0 201 202,
  sleepAt 20000 300]

private def orderedResult : Option (InterruptMask × Finset Pid × Scheduler) :=
  Scheduler.run (fun _ live s action => s.Legal live action ∧ action.SleepEnds ∧
    s.SleepsInOrder action) orderedRun (false, atStart 0 0 (List.replicate 5 SyscallArgs.zero.createTask) 0)

private theorem orderedResult_isSome : orderedResult.isSome := by decide +kernel

theorem earliest_deadline_first_example : ∃ system : System,
    system.Reachable System.SleepsInOrder ∧ system.kernel.scheduled = [6, 4] ∧
      system.kernel.EarliestFirst 9500 := by
  obtain ⟨system, reached, good, -⟩ := reachedBy_of_run System.SleepsInOrder 0 0 _ 0
    (fun _ _ _ _ good allowed =>
      ⟨(sleepsInOrder_iff good).mpr allowed, (legal_iff good).mpr allowed.1⟩)
    (by decide) (Option.some_get orderedResult_isSome).symm
  have sleepers := good.scheduled
  refine ⟨system, reached.reachable, sleepers.trans (by decide +kernel), ?_⟩
  exact earliest_deadline_first system reached.reachable 9500 (by decide)

/-- Four of five tasks fall asleep one after the other, until 10, 20, 30 and 40
milliseconds, and the first two wake up. -/
private def hidingRun : List Action := [
  yieldAt 100, .takePendsv, .pendsv 0 101 102, sleepAt 10000 200, .takePendsv, .pendsv 0 201 202,
  sleepAt 20000 300, .takePendsv, .pendsv 0 301 302, sleepAt 30000 400, .takePendsv,
  .pendsv 0 401 402, sleepAt 40000 500, .takePendsv, .pendsv 0 501 502,
  .systick 0 9500 9500 9500, .takePendsv, .pendsv 0 9501 9502, .systick 0 19500 19500 19500]

private def hidingResult : Option (InterruptMask × Finset Pid × Scheduler) :=
  Scheduler.run (fun mask live s action => s.Legal live action ∧ action.SleepEnds ∧
    s.MayTake mask action) hidingRun
    (false, atStart 0 0 (List.replicate 5 SyscallArgs.zero.createTask) 0)

private theorem hidingResult_isSome : hidingResult.isSome := by decide +kernel

/-- The last of the four stands in front of the third, which is due and not
chosen. -/
theorem due_task_hidden : ∃ (system : System) (actions : List Action) (now : AbsoluteTime),
    system.ReachedBy (fun system action => system.Sleeps action ∧ system.MayTake action) actions ∧
      (∀ action ∈ actions, ¬ action.Kills) ∧
      (actions.flatMap Action.times ++ [now]).Pairwise (· ≤ ·) ∧ now.toNat + 1000 < 2 ^ 63 ∧
      ¬ system.kernel.EarliestFirst now := by
  obtain ⟨system, reached, good, -⟩ := reachedBy_of_run
    (fun system action => system.Sleeps action ∧ system.MayTake action) 0 0 _ 0
    (fun _ _ _ _ good allowed => ⟨⟨⟨(legal_iff good).mpr allowed.1, allowed.2.1⟩,
      (mayTake_iff good).mpr allowed.2.2⟩, (legal_iff good).mpr allowed.1⟩)
    (by decide) (Option.some_get hidingResult_isSome).symm
  refine ⟨system, hidingRun, 29500, reached, by decide, by decide, by decide, ?_⟩
  intro earliestFirst
  have sleepers : system.kernel.scheduled = _ := good.scheduled
  have deadlines : system.kernel.nextRunTime = _ := good.nextRunTime
  obtain ⟨-, next, kernel', run, member, -⟩ := earliestFirst ⟨2, by
    rw [sleepers, deadlines]
    decide +kernel⟩
  obtain ⟨kernel'', run', -⟩ := getNextTask_simulates 29500 system.kernel _ good.outside
    (choosable good.invariant)
  rw [run', EStateM.Result.ok.injEq] at run
  rw [← run.1, sleepers] at member
  revert member
  decide +kernel

end Example

end Gkrtos
