import Gkrtos.RoundRobin

/-! Waiting for a turn, for members of any type. Each turn of somebody else brings a member
one place forward, and newcomers put it back by one. Only one thing costs it more: when
the first one leaves and it is second, it becomes first without a turn, and the next turn
takes it to the end. -/
namespace Gkrtos.RoundRobin

variable {α : Type} {a first gone new : α} {queue rest : List α} {room : Nat}

/-- The second one loses its turn when the first one leaves. -/
def Skips (gone a : α) (queue : List α) : Prop := queue.take 2 = [gone, a]

/-- What happens at the end does not matter for that. -/
theorem skips_comeBack (different : gone ≠ a) (member : a ∈ queue) :
    Skips gone a ((Change.comeBack new).apply queue) ↔ Skips gone a queue := by
  show (queue ++ [new]).take 2 = [gone, a] ↔ queue.take 2 = [gone, a]
  match queue with
  | [] => exact absurd member List.not_mem_nil
  | [only] =>
    obtain rfl : a = only := List.mem_singleton.mp member
    simp [different.symm]
  | first :: next :: others => simp

variable [DecidableEq α]

instance (gone a : α) (queue : List α) : Decidable (Skips gone a queue) :=
  inferInstanceAs (Decidable (_ = _))

/-- How many turns the others can have up to and with the one of `a`, in a queue with room
for so many. -/
def wait (room : Nat) (a : α) (queue : List α) : Nat :=
  if queue.idxOf a = 0 then room else queue.idxOf a

@[simp] theorem wait_head : wait room a (a :: rest) = room := by
  rw [wait, List.idxOf_cons_self, if_pos rfl]

theorem wait_behind (different : first ≠ a) : wait room a (first :: rest) = rest.idxOf a + 1 := by
  rw [wait, List.idxOf_cons_ne rest different, if_neg (Nat.succ_ne_zero _)]

theorem wait_pos (positive : 0 < room) : 0 < wait room a queue := by
  unfold wait
  split
  case isTrue => exact positive
  case isFalse behind => exact Nat.pos_of_ne_zero behind

theorem idxOf_erase_le (different : gone ≠ a) : (queue.erase gone).idxOf a ≤ queue.idxOf a := by
  induction queue with
  | nil => exact Nat.le_refl _
  | cons first rest ih =>
    by_cases own : first = a
    · subst own
      rw [List.erase_cons_tail (by simpa using different.symm), List.idxOf_cons_self]
      exact Nat.zero_le _
    · rw [List.idxOf_cons_ne rest own]
      by_cases leaves : first = gone
      · subst leaves
        rw [List.erase_cons_head]
        exact Nat.le_succ _
      · rw [List.erase_cons_tail (by simpa using leaves), List.idxOf_cons_ne _ own]
        exact Nat.succ_le_succ ih

/-- A turn of somebody else. -/
theorem wait_turn (member : a ∈ queue) (fits : queue.length ≤ room)
    (other : (queue.rotate 1).head? ≠ some a) :
    wait room a (queue.rotate 1) + 1 ≤ wait room a queue := by
  obtain ⟨first, rest, rfl⟩ := List.exists_cons_of_ne_nil (List.ne_nil_of_mem member)
  have turned : (first :: rest).rotate 1 = rest ++ [first] := by
    rw [List.rotate_cons_succ, List.rotate_zero]
  rw [turned] at other ⊢
  cases rest with
  | nil =>
    obtain rfl := List.mem_singleton.mp member
    exact absurd rfl other
  | cons next others =>
    have behind : next ≠ a := fun same => other (congrArg some same)
    rw [List.cons_append, wait_behind behind]
    by_cases own : first = a
    · -- The first one goes to the end.
      subst own
      have last : (others ++ [first]).idxOf first < (others ++ [first]).length :=
        List.idxOf_lt_length_of_mem (by simp)
      rw [List.length_append, List.length_singleton] at last
      rw [wait_head]
      simp only [List.length_cons] at fits
      omega
    · have stands : a ∈ others := by
        simpa [Ne.symm own, Ne.symm behind] using member
      rw [wait_behind own, List.idxOf_cons_ne others behind, List.idxOf_append_of_mem stands]

/-- A newcomer. -/
theorem wait_join (different : new ≠ a) (member : a ∈ queue) :
    wait room a ((Change.join new).apply queue) ≤ wait room a queue + 1 := by
  obtain ⟨first, rest, rfl⟩ := List.exists_cons_of_ne_nil (List.ne_nil_of_mem member)
  show wait room a (first :: new :: rest) ≤ _
  by_cases own : first = a
  · subst own
    rw [wait_head, wait_head]
    exact Nat.le_succ room
  · rw [wait_behind own, wait_behind own, List.idxOf_cons_ne rest different]

theorem wait_comeBack (member : a ∈ queue) :
    wait room a ((Change.comeBack new).apply queue) = wait room a queue := by
  show wait room a (queue ++ [new]) = _
  rw [wait, wait, List.idxOf_append_of_mem member]

/-- Somebody else leaves. -/
theorem wait_leave (different : gone ≠ a) (member : a ∈ queue) :
    wait room a (queue.erase gone) ≤
      wait room a queue + if Skips gone a queue then room - 1 else 0 := by
  obtain ⟨first, rest, rfl⟩ := List.exists_cons_of_ne_nil (List.ne_nil_of_mem member)
  by_cases own : first = a
  · subst own
    rw [List.erase_cons_tail (by simpa using different.symm), wait_head, wait_head]
    exact Nat.le_add_right _ _
  · rw [wait_behind own]
    by_cases leaves : first = gone
    · subst leaves
      rw [List.erase_cons_head]
      cases rest with
      | nil => exact absurd (List.mem_singleton.mp member).symm own
      | cons next others =>
        by_cases second : next = a
        · subst second
          have skips : Skips first next (first :: next :: others) := rfl
          rw [wait_head, if_pos skips]
          omega
        · rw [wait_behind second, List.idxOf_cons_ne others second]
          omega
    · rw [List.erase_cons_tail (by simpa using leaves), wait_behind own]
      have behind : (rest.erase gone).idxOf a ≤ rest.idxOf a := idxOf_erase_le different
      omega

end Gkrtos.RoundRobin
