import Gkrtos.Scheduler

/-! Where tasks are queued. Each live task is in one of the two queues, once,
and its deadline says in which. An operation may take a task out for a while:
membership is therefore stated for a set of tasks, and an operation that adds
or removes a task changes the set. -/
namespace Gkrtos.Scheduler
open ListRefinement

/-- Exactly these tasks are queued, the ones with a deadline among the sleepers
and the others in the ring. -/
structure Placed (queued : Finset Pid) (s : Scheduler) : Prop where
  ring : ∀ task, s.ring.count task = if task ∈ queued ∧ s.deadline task = nilTime then 1 else 0
  sleepers : ∀ task,
    s.sleepers.count task = if task ∈ queued ∧ s.deadline task ≠ nilTime then 1 else 0

variable {live : Finset Pid} {s : Scheduler} {task other : TaskPtr}

theorem Placed.mem_ring (placed : Placed live s) :
    task ∈ s.ring ↔ task ∈ live ∧ s.deadline task = nilTime := by
  rw [← List.count_pos_iff, placed.ring]
  split <;> simp_all

theorem Placed.mem_sleepers (placed : Placed live s) :
    task ∈ s.sleepers ↔ task ∈ live ∧ s.deadline task ≠ nilTime := by
  rw [← List.count_pos_iff, placed.sleepers]
  split <;> simp_all

theorem Placed.ring_nodup (placed : Placed live s) : s.ring.Nodup := by
  refine List.nodup_iff_count_le_one.mpr fun task => ?_
  rw [placed.ring]
  split <;> simp

theorem Placed.sleepers_nodup (placed : Placed live s) : s.sleepers.Nodup := by
  refine List.nodup_iff_count_le_one.mpr fun task => ?_
  rw [placed.sleepers]
  split <;> simp

/-! ## How operations move tasks -/

theorem count_insertSecond (queue : List TaskPtr) :
    (insertSecond task queue).count other = (task :: queue).count other := by
  cases queue with
  | nil => rfl
  | cons first rest =>
    simp only [insertSecond, List.count_cons]
    omega

theorem count_insertBehind (behindFirst : Bool) (queue : List TaskPtr) :
    (insertBehind behindFirst task queue).count other = (task :: queue).count other := by
  rcases queue with _ | ⟨first, _ | ⟨second, rest⟩⟩
  · rfl
  · simp only [insertBehind, List.count_cons, List.count_nil]
    omega
  · simp only [insertBehind]
    split <;> simp only [List.count_cons] <;> omega

theorem dequeue_count (s : Scheduler) (task other : TaskPtr) :
    (s.dequeue task).ring.count other =
        s.ring.count other - (if other = task ∧ s.deadline task = nilTime then 1 else 0) ∧
      (s.dequeue task).sleepers.count other =
        s.sleepers.count other - (if other = task ∧ s.deadline task ≠ nilTime then 1 else 0) := by
  by_cases awake : s.deadline task = nilTime
  · rw [dequeue_awake awake]
    grind
  · rw [dequeue_asleep awake]
    grind

section Counts

variable [PicoSdk]

theorem enqueue_count (s : Scheduler) (task other : TaskPtr) (read : ItemsAsTasks) :
    (s.enqueue task read).ring.count other =
        s.ring.count other + (if other = task ∧ s.deadline task = nilTime then 1 else 0) ∧
      (s.enqueue task read).sleepers.count other =
        s.sleepers.count other + (if other = task ∧ s.deadline task ≠ nilTime then 1 else 0) := by
  by_cases awake : s.deadline task = nilTime
  · rw [enqueue_awake awake]
    grind [count_insertSecond]
  · by_cases first : s.GoesFirst task
    · rw [enqueue_first awake first]
      grind
    · rw [enqueue_behind awake first]
      grind [count_insertBehind]

/-- Choosing the next task moves at most the due one, from the sleepers to the
ring. -/
theorem select_count (s : Scheduler) (now : AbsoluteTime) (task : TaskPtr) :
    (s.select now).ring.count task =
        s.ring.count task + (if s.due now = some task then 1 else 0) ∧
      (s.select now).sleepers.count task =
        s.sleepers.count task - (if s.due now = some task then 1 else 0) := by
  cases due : s.due now with
  | none =>
    rw [select_idle due]
    simp [(List.rotate_perm s.ring 1).count_eq task]
  | some first =>
    rw [select_due due]
    simp [List.count_erase, List.count_singleton]

end Counts

/-! ## How they keep tasks placed -/

/-- A change to a task that is not queued, or one that keeps the deadline, does
not move anything. -/
theorem placed_change (f : Task → Task) (placed : Placed live s)
    (harmless : task ∈ live → (f (s.table task)).nextRunTime = s.deadline task) :
    Placed live (s.change task f) := by
  have same : ∀ other ∈ live, (s.change task f).deadline other = s.deadline other := by
    intro other member
    rw [change_deadline]
    split_ifs with equal
    · subst equal
      exact harmless member
    · rfl
  refine ⟨fun other => (placed.ring other).trans ?_, fun other => (placed.sleepers other).trans ?_⟩
  · exact if_congr (and_congr_right fun member => by rw [same other member]) rfl rfl
  · exact if_congr (and_congr_right fun member => by rw [same other member]) rfl rfl

theorem deadline_of_table {s s' : Scheduler} (table : s'.table = s.table) :
    s'.deadline = s.deadline := by
  unfold deadline
  rw [table]

theorem placed_dequeue (placed : Placed live s) (member : task ∈ live) :
    Placed (live.erase task) (s.dequeue task) := by
  have deadline := deadline_of_table (dequeue_fields s task).1
  refine ⟨fun other => ?_, fun other => ?_⟩
  · rw [(dequeue_count s task other).1, placed.ring, deadline]
    grind
  · rw [(dequeue_count s task other).2, placed.sleepers, deadline]
    grind

variable [PicoSdk]

theorem placed_enqueue (read : ItemsAsTasks) (placed : Placed live s) (absent : task ∉ live) :
    Placed (insert task live) (s.enqueue task read) := by
  have deadline := deadline_of_table (enqueue_fields s task read).1
  refine ⟨fun other => ?_, fun other => ?_⟩
  · rw [(enqueue_count s task other read).1, placed.ring, deadline]
    grind
  · rw [(enqueue_count s task other read).2, placed.sleepers, deadline]
    grind

theorem placed_select (now : AbsoluteTime) (placed : Placed live s) :
    Placed live (s.select now) := by
  have woken : ∀ task, s.due now = some task → task ∈ live ∧ s.deadline task ≠ nilTime :=
    fun task due => placed.mem_sleepers.mp (List.mem_of_head? (due_eq_some.mp due).1)
  refine ⟨fun task => ?_, fun task => ?_⟩
  · rw [(select_count s now task).1, placed.ring, select_deadline]
    grind
  · rw [(select_count s now task).2, placed.sleepers, select_deadline]
    grind

end Gkrtos.Scheduler
