import Mathlib.Data.Finset.Card
import Gkrtos.ItemCounts
import Gkrtos.ListClients
import Gkrtos.Runs

/-! The kernel leaks no list item. A task that sleeps, wakes up, is killed or is created goes
through `malloc` and `free`, each time with one item that carries it, and between two handlers
the items on the heap are one for each live task. -/
namespace Gkrtos
open Stateful KernelRefinement ListRefinement

/-- There are the two queues, and every item on the heap is counted by one of them. -/
def NothingLost (store : ListStore TaskPtr) : Prop :=
  (tally store).lists = 2 ∧ (tally store).Balanced

/-! ## Handlers -/

section Lists

variable [PicoSdk] [Malloc]

omit [PicoSdk] [Malloc] in
private theorem nothingLost_of_counts {α : Type} {call : ListM TaskPtr α} {returns : Tally → α → Prop}
    {change : Tally → Tally} (counts : ∀ t, Yields (Counts t) call (returns t) (Counts (change t)))
    (keeps : ∀ t result, returns t result → t.lists = 2 → t.Balanced →
      (change t).lists = 2 ∧ (change t).Balanced) :
    Yields NothingLost call (fun _ => True) NothingLost := by
  apply yields_of_ok
  rintro store result store' ⟨two, balanced⟩ run
  have same : Counts (tally store) store := rfl
  obtain ⟨fits, counted⟩ := (counts (tally store)).ok same run
  have counted : tally store' = change (tally store) := counted
  rw [NothingLost, counted]
  exact ⟨trivial, keeps _ _ fits two balanced⟩

omit [PicoSdk] in
theorem nothingLost_kept : KeptByLists NothingLost := by
  have inserts {call : ListM TaskPtr Unit} {list : ListPtr}
      (counts : ∀ t, Yields (Counts t) call (fun _ => list < t.lists)
        (Counts (t.allocate.countUp list))) : Yields NothingLost call (fun _ => True) NothingLost :=
    nothingLost_of_counts counts fun _ _ valid two balanced => ⟨two, balanced.insert valid⟩
  constructor
  case append => exact fun list rawItem => inserts fun _ => counts_listAppend list
  case prepend => exact fun list rawItem => inserts fun _ => counts_listPrepend list
  case insertHead => exact fun list rawItem => inserts fun _ => counts_listInsertHead list
  case insertSorted => exact fun list rawItem sortFn => inserts fun _ => counts_listInsertSorted list sortFn
  case remove =>
    intro list item
    apply nothingLost_of_counts fun _ => counts_listRemove list item
    intro t _ valid two balanced
    refine ⟨?_, balanced.remove valid⟩
    rw [Tally.remove]
    split <;> exact two
  case rotate =>
    intro list
    exact nothingLost_of_counts (fun _ => counts_listRotate list) fun _ _ _ two balanced =>
      ⟨two, balanced⟩

/-! ## Start -/

omit [PicoSdk] [Malloc] in
private theorem counts_taskingInit {t : Tally} : Yields (fun kernel => Counts t kernel.lists)
    internalTaskingInit (fun result => result = .success)
    fun kernel => Counts t.new.new kernel.lists := by
  apply triple_bind (respects_onLists counts_listNew)
  intro scheduledQueue _
  refine respects_write (fun _ => rfl) ?_
  apply triple_bind (respects_onLists counts_listNew)
  intro unscheduledQueue _
  refine respects_write (fun _ => rfl) ?_
  exact respects_write (fun _ => rfl) (triple_pure rfl)

omit [Malloc] in
private theorem counts_sectionInit {t : Tally} : Yields (fun kernel => Counts t kernel.lists)
    criticalSectionInit (fun result => result = .success) fun kernel => Counts t kernel.lists := by
  refine respects_write (fun _ => rfl) ?_
  apply respects_after keeps_get
  intro kernel
  exact respects_write (fun _ => rfl) (triple_pure rfl)

omit [PicoSdk] [Malloc] in
private theorem nothingLost_made {store : ListStore TaskPtr}
    (counts : Counts (tally (ListStore.initial : ListStore TaskPtr)).new.new store) :
    NothingLost store := by
  have empty : (tally (ListStore.initial : ListStore TaskPtr)).Balanced := rfl
  have counts : tally store = _ := counts
  rw [NothingLost, counts]
  exact ⟨rfl, empty.new.new⟩

/-- The heap is empty until the queues are made, and then it holds the spin task. -/
private theorem nothingLost_init (spinTask spinTaskStack : Word) :
    Yields (fun kernel => Counts (tally (ListStore.initial : ListStore TaskPtr)) kernel.lists)
      (init spinTask spinTaskStack)
      (fun _ => True) fun kernel => NothingLost kernel.lists := by
  have handler (exception : Exception) (value : Nat) {t : Tally} :
      Yields (fun kernel => Counts t kernel.lists) (do
        setPriority exception value
        return Result.success) (fun result => result = .success)
        fun kernel => Counts t kernel.lists :=
    respects_write (fun _ => rfl) (triple_pure rfl)
  apply triple_bind counts_sectionInit
  rintro _ rfl
  apply triple_bind (handler .pendsv pendsvPriority)
  rintro _ rfl
  apply triple_bind (handler .svcall svcallPriority)
  rintro _ rfl
  apply triple_bind counts_taskingInit
  rintro _ rfl
  have spin : Respects NothingLost (do
      let _ ← internalSyscall (← taskingGetCurrentTask) syscallCreateTask
        { SyscallArgs.zero with
          createTask := ⟨taskingPriorityUserBase, spinTask, spinTaskStack, 0⟩ } 0
      return Result.success) := by
    apply respects_after keeps_currentTask
    intro task
    apply respects_bind (respects_syscall nothingLost_kept task _ _ 0)
    exact fun pid => triple_pure trivial
  exact spin.imp (fun _ counts => nothingLost_made counts) (fun _ fits => fits) fun _ kept => kept

private theorem nothingLost_start {system : System} (started : system.Started) :
    NothingLost system.kernel.lists := by
  obtain ⟨spinTask, spinTaskStack, tasks, now, pids, -, launch, -⟩ := started
  obtain ⟨done, booted, boot, launch⟩ := bind_ok.mp launch
  obtain ⟨pids', filled, fill, launch⟩ := bind_ok.mp launch
  obtain ⟨_, begun, start, launch⟩ := bind_ok.mp launch
  cases launch
  have empty : Counts (tally (ListStore.initial : ListStore TaskPtr)) Kernel.initial.lists := rfl
  have made := ((nothingLost_init spinTask spinTaskStack).ok empty boot).2
  have queued := ((respects_createTasks nothingLost_kept tasks).ok made fill).2
  exact ((respects_start now).ok queued start).2

/-! ## Runs -/

private theorem nothingLost_step {allowed : System → Action → Prop} {system next : System}
    (step : System.Step allowed system next) (kept : NothingLost system.kernel.lists) :
    NothingLost next.kernel.lists := by
  obtain ⟨action, -, stepped⟩ := step
  obtain ⟨result, run, -⟩ := System.step_ok stepped
  have kept : NothingLost system.kernel.unrecorded.lists := kept
  exact ((respects_handle nothingLost_kept action).ok kept run).2

/-- Whatever the tasks do, as long as no handler ends in a fault. -/
theorem reachable_nothingLost {allowed : System → Action → Prop} {system : System}
    (reachable : system.Reachable allowed) : NothingLost system.kernel.lists := by
  obtain ⟨started, isStarted, run⟩ := reachable
  induction run with
  | refl => exact nothingLost_start isStarted
  | tail _ step ih => exact nothingLost_step step ih

/-! ## Live tasks -/

omit [PicoSdk] [Malloc] in
private theorem either_order {scheduled unscheduled : Nat} (_ : scheduled < 2) (_ : unscheduled < 2)
    (_ : scheduled ≠ unscheduled) :
    unscheduled = 0 ∧ scheduled = 1 ∨ unscheduled = 1 ∧ scheduled = 0 := by omega

omit [PicoSdk] [Malloc] in
/-- In a well-formed heap the items on it are the ones in the queues. -/
private theorem items_of_nothingLost {kernel : Kernel} (sound : Sound kernel)
    (kept : NothingLost kernel.lists) :
    (kernel.lists.allocated.map kernel.lists.data).Perm (kernel.unscheduled ++ kernel.scheduled) := by
  obtain ⟨⟨nodes, owns⟩, scheduled, unscheduled, apart, -, -⟩ := sound
  obtain ⟨two, balanced⟩ := kept
  have two : kernel.lists.lists = 2 := two
  have ready := owns.represents _ unscheduled
  have asleep := owns.represents _ scheduled
  have distinct : (nodes kernel.unscheduledQueue ++ nodes kernel.scheduledQueue).Nodup :=
    ready.distinct.append asleep.distinct (owns.apart _ unscheduled _ scheduled (Ne.symm apart))
  have held : nodes kernel.unscheduledQueue ++ nodes kernel.scheduledQueue ⊆ kernel.lists.allocated :=
    List.append_subset.mpr ⟨ready.held, asleep.held⟩
  have counted : kernel.lists.allocated.length =
      (nodes kernel.unscheduledQueue ++ nodes kernel.scheduledQueue).length := by
    have sum : kernel.lists.allocated.length =
        ∑ list ∈ Finset.range kernel.lists.lists, (kernel.lists.header list).length := balanced
    rw [two] at scheduled unscheduled
    rw [sum, two, Finset.sum_range_succ, Finset.sum_range_one, List.length_append, ← ready.length,
      ← asleep.length]
    obtain ⟨first, second⟩ | ⟨first, second⟩ := either_order scheduled unscheduled apart
    · rw [first, second]
    · rw [first, second, Nat.add_comm]
  have all : (nodes kernel.unscheduledQueue ++ nodes kernel.scheduledQueue).Perm
      kernel.lists.allocated :=
    (List.subperm_of_subset distinct held).perm_of_length_le counted.le
  rw [Kernel.unscheduled, Kernel.scheduled, contents_represented ready, contents_represented asleep,
    ← List.map_append]
  exact (all.map kernel.lists.data).symm

/-- The items on the heap carry the live tasks, each of them once. -/
theorem heap_holds_live_tasks {system : System} (reachable : system.Reachable System.Legal) :
    (system.kernel.lists.allocated.map system.kernel.lists.data : Multiset Pid) = system.live.val ∧
      system.kernel.lists.allocated.length ≤ configMaxTasks := by
  obtain ⟨mask, s, good⟩ := reachable_good reachable
  obtain ⟨placed, numbered, -, -⟩ := good.invariant
  have items := items_of_nothingLost good.outside.sound (reachable_nothingLost reachable)
  rw [good.unscheduled, good.scheduled] at items
  have carried : (system.kernel.lists.allocated.map system.kernel.lists.data : Multiset Pid) =
      system.live.val := by
    rw [Multiset.coe_eq_coe.mpr items]
    ext task
    rw [Multiset.coe_count, List.count_append, placed.ring, placed.sleepers,
      Multiset.count_eq_of_nodup system.live.nodup]
    by_cases alive : task ∈ system.live
    · by_cases awake : s.deadline task = nilTime <;> simp [alive, awake]
    · simp [alive]
  refine ⟨carried, ?_⟩
  have created : system.live ⊆ Finset.range configMaxTasks := fun task alive =>
    Finset.mem_range.mpr (Nat.lt_of_lt_of_le (numbered.created task alive) numbered.bound)
  calc system.kernel.lists.allocated.length
      = Multiset.card (system.kernel.lists.allocated.map system.kernel.lists.data : Multiset Pid) := by
        rw [Multiset.coe_card, List.length_map]
    _ = system.live.card := by rw [carried, Finset.card_val]
    _ ≤ configMaxTasks := (Finset.card_le_card created).trans_eq (Finset.card_range _)

end Lists

section Example

attribute [local instance] PicoSdk.reference Malloc.reference

/-- Three tasks are created. One sleeps and is killed asleep, one sleeps and wakes up, and a
fourth one is created. -/
private def churn : Option (InterruptMask × Finset Pid × Scheduler) :=
  Scheduler.run (fun _ live s action => s.Legal live action) [
    .svc 0 syscallYield .zero 10, .takePendsv, .pendsv 0 11 11,
    .svc 0 syscallSleepUntil { SyscallArgs.zero with milliseconds := 90000 } 20,
    .takePendsv, .pendsv 0 21 21,
    .svc 0 syscallSleepUntil { SyscallArgs.zero with milliseconds := 40 } 30,
    .takePendsv, .pendsv 0 31 31,
    .svc 0 syscallKill { SyscallArgs.zero with pid := 4 } 50,
    .svc 0 syscallCreateTask .zero 60, .svc 0 syscallYield .zero 70]
    (false, atStart 0 0 (List.replicate 3 SyscallArgs.zero.createTask) 0)

private theorem churn_isSome : churn.isSome := by decide +kernel

theorem heap_holds_live_tasks_example : ∃ system : System, system.Reachable System.Legal ∧
    (system.kernel.lists.allocated.map system.kernel.lists.data : Multiset Pid) = {1, 2, 3, 5} := by
  obtain ⟨system, reached, -, live⟩ := reachedBy_of_run System.Legal 0 0 _ 0
    (fun _ _ _ _ good legal => ⟨(legal_iff good).mpr legal, (legal_iff good).mpr legal⟩)
    (by decide) (Option.some_get churn_isSome).symm
  have alive : system.live = {1, 2, 3, 5} := live.trans (by decide +kernel)
  refine ⟨system, reached.reachable, ?_⟩
  rw [(heap_holds_live_tasks reached.reachable).1, alive]
  rfl

end Example

end Gkrtos
