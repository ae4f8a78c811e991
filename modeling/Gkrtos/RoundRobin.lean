import Mathlib.Data.List.Nodup
import Mathlib.Data.List.Rotate

/-! Taking turns, for members of any type. The members stand in a queue; a turn moves
the first one to the end and goes to the next. Newcomers line up behind the first
one, and members who were away come back to the end, which is where the first one
will be after the others. Between two turns of one member, everyone who was there
at the first of them has exactly one turn. -/
namespace Gkrtos.RoundRobin

variable {α : Type}

/-- What happens to the queue. -/
inductive Change (α : Type) where
  | turn
  | join (new : α)
  | comeBack (new : α)

def Change.apply : Change α → List α → List α
  | turn, queue => queue.rotate 1
  | join new, [] => [new]
  | join new, first :: rest => first :: new :: rest
  | comeBack new, queue => queue ++ [new]

/-- Who has a turn. -/
def Change.next : Change α → List α → List α
  | turn, queue => (queue.rotate 1).head?.toList
  | _, _ => []

/-- Nobody is in the queue twice. -/
def Change.Fresh : Change α → List α → Prop
  | turn, _ => True
  | join new, queue => new ∉ queue
  | comeBack new, queue => new ∉ queue

/-- The queue before and after some changes, and who had turns. -/
inductive Run : List α → List α → List α → Prop
  | refl (queue : List α) : Run queue [] queue
  | change {queue turns between : List α} (before : Run queue turns between) (change : Change α)
    (fresh : change.Fresh between) :
    Run queue (turns ++ change.next between) (change.apply between)

variable {queue queue' queue'' turns turns' : List α}

theorem Run.single (change : Change α) (fresh : change.Fresh queue) :
    Run queue (change.next queue) (change.apply queue) :=
  .change (.refl queue) change fresh

theorem Run.trans (first : Run queue turns queue') (second : Run queue' turns' queue'') :
    Run queue (turns ++ turns') queue'' := by
  induction second with
  | refl =>
    rw [List.append_nil]
    exact first
  | change before change fresh ih =>
    rw [← List.append_assoc]
    exact .change ih change fresh

section Positions

variable {a new next : α} {passed pending : List α}

/-- Since the turn of `a`, those in `passed` had theirs, with the last one now at
the head, and those in `pending` come before `a` again. -/
inductive Position (a : α) : List α → List α → List α → Prop
  | own (pending : List α) : Position a [] pending (a :: pending)
  | other (earlier pending : List α) (last : α) :
    Position a (earlier ++ [last]) pending (last :: pending ++ a :: earlier)

theorem position_turn (position : Position a passed (next :: pending) queue) :
    (queue.rotate 1).head? = some next ∧
      Position a (passed ++ [next]) pending (queue.rotate 1) := by
  cases position with
  | own =>
    have turned : (a :: next :: pending).rotate 1 = next :: pending ++ a :: [] := by simp
    rw [turned]
    exact ⟨rfl, .other [] pending next⟩
  | other earlier _ last =>
    have turned : (last :: (next :: pending) ++ a :: earlier).rotate 1 =
        next :: pending ++ a :: (earlier ++ [last]) := by
      simp
    rw [turned]
    exact ⟨rfl, .other (earlier ++ [last]) pending next⟩

theorem position_last (position : Position a passed [] queue) :
    (queue.rotate 1).head? = some a := by
  cases position with
  | own => simp
  | other earlier _ last => simp

theorem position_join (position : Position a passed pending queue) (new : α) :
    Position a passed (new :: pending) ((Change.join new).apply queue) := by
  cases position with
  | own => exact .own (new :: pending)
  | other earlier _ last => exact .other earlier (new :: pending) last

/-- Who comes back is somewhere between the others. -/
theorem position_comeBack (position : Position a passed pending queue) (new : α) :
    ∃ passed' pending', Position a passed' pending' (queue ++ [new]) ∧
      passed ⊆ passed' ∧ pending ⊆ pending' := by
  cases position with
  | own => exact ⟨[], pending ++ [new], .own _, by simp, by simp⟩
  | other earlier _ last =>
    refine ⟨earlier ++ [new] ++ [last], pending, ?_, by simp, by simp⟩
    have shape : last :: pending ++ a :: earlier ++ [new] =
        last :: pending ++ a :: (earlier ++ [new]) := by
      simp
    rw [shape]
    exact .other (earlier ++ [new]) pending last

/-- Everyone in the queue is in one of the two groups. -/
theorem Position.perm (position : Position a passed pending queue) :
    queue.Perm (a :: (passed ++ pending)) := by
  cases position with
  | own => exact .refl _
  | other earlier _ last =>
    have front : (last :: pending ++ a :: earlier).Perm (a :: earlier ++ last :: pending) :=
      List.perm_append_comm
    have shape : a :: earlier ++ last :: pending = a :: (earlier ++ [last] ++ pending) := by simp
    rw [shape] at front
    exact front

end Positions

section Turns

variable [DecidableEq α] {a : α} {others : List α}

/-- Those who are still to come have had no turn, the rest one. -/
structure Round (a : α) (others turns queue : List α) : Prop where
  distinct : queue.Nodup
  groups : ∃ passed pending, Position a passed pending queue ∧ ∀ other ∈ others,
    other ∈ pending ∧ turns.count other = 0 ∨ other ∈ passed ∧ turns.count other = 1

theorem round_turn (round : Round a others turns queue)
    (never : a ∉ Change.turn.next queue) :
    Round a others (turns ++ Change.turn.next queue) (Change.turn.apply queue) := by
  obtain ⟨distinct, passed, pending, position, groups⟩ := round
  cases pending with
  | nil =>
    have chosen := position_last position
    simp [Change.next, chosen] at never
  | cons next pending =>
    obtain ⟨chosen, moved⟩ := position_turn position
    have once : (passed ++ next :: pending).Nodup :=
      (List.nodup_cons.mp (position.perm.nodup_iff.mp distinct)).2
    obtain ⟨-, -, apart⟩ := List.nodup_append.mp once
    have turned : turns ++ Change.turn.next queue = turns ++ [next] := by
      rw [Change.next, chosen]
      rfl
    rw [turned]
    refine ⟨List.nodup_rotate.mpr distinct, passed ++ [next], pending, moved, ?_⟩
    intro other member
    rw [List.count_append, List.mem_append]
    cases groups other member with
    | inl waits =>
      obtain ⟨ahead, none⟩ := waits
      by_cases isNext : other = next
      · subst isNext
        right
        simp [none]
      · have behind : other ∈ pending := (List.mem_cons.mp ahead).resolve_left isNext
        left
        simp [behind, none, Ne.symm isNext]
    | inr served =>
      obtain ⟨done, one⟩ := served
      have different : next ≠ other := (apart other done next List.mem_cons_self).symm
      right
      simp [done, one, different]

theorem round_change (round : Round a others turns queue) (change : Change α)
    (fresh : change.Fresh queue) (never : a ∉ change.next queue) :
    Round a others (turns ++ change.next queue) (change.apply queue) := by
  cases change with
  | turn => exact round_turn round never
  | join new =>
    obtain ⟨distinct, passed, pending, position, groups⟩ := round
    have noTurn : turns ++ (Change.join new).next queue = turns := List.append_nil turns
    rw [noTurn]
    refine ⟨?_, passed, new :: pending, position_join position new, ?_⟩
    · have isNew : new ∉ queue := fresh
      cases queue with
      | nil => simp [Change.apply]
      | cons first rest =>
        simp only [List.mem_cons, not_or] at isNew
        obtain ⟨first_not, distinct⟩ := List.nodup_cons.mp distinct
        simp [Change.apply, Ne.symm isNew.1, isNew.2, first_not, distinct]
    · intro other member
      exact (groups other member).imp_left (And.imp_left (List.mem_cons_of_mem new))
  | comeBack new =>
    obtain ⟨distinct, passed, pending, position, groups⟩ := round
    obtain ⟨passed', pending', moved, passedKept, pendingKept⟩ := position_comeBack position new
    have noTurn : turns ++ (Change.comeBack new).next queue = turns := List.append_nil turns
    rw [noTurn]
    refine ⟨?_, passed', pending', moved, ?_⟩
    · have isNew : new ∉ queue := fresh
      exact List.nodup_append.mpr ⟨distinct, List.nodup_singleton new, by
        rintro other member _ (_ | ⟨_, ⟨⟩⟩) rfl
        exact isNew member⟩
    · intro other member
      cases groups other member with
      | inl waits => exact .inl ⟨pendingKept waits.1, waits.2⟩
      | inr served => exact .inr ⟨passedKept served.1, served.2⟩

theorem round_run (distinct : (a :: others).Nodup) (run : Run (a :: others) turns queue)
    (never : a ∉ turns) : Round a others turns queue := by
  induction run with
  | refl =>
    refine ⟨distinct, [], others, .own others, ?_⟩
    exact fun other member => .inl ⟨member, List.count_nil⟩
  | change before change fresh ih =>
    rw [List.mem_append, not_or] at never
    exact round_change (ih never.1) change fresh never.2

/-- When it is the turn of `a` again, the others have had theirs. -/
theorem turn_once (distinct : (a :: others).Nodup) (run : Run (a :: others) turns queue)
    (never : a ∉ turns) (again : (queue.rotate 1).head? = some a) :
    ∀ other ∈ others, turns.count other = 1 := by
  obtain ⟨nodup, passed, pending, position, groups⟩ := round_run distinct run never
  have noneWaits : pending = [] := by
    cases pending with
    | nil => rfl
    | cons next pending =>
      obtain ⟨chosen, -⟩ := position_turn position
      obtain rfl : next = a := Option.some.inj (chosen.symm.trans again)
      have once := position.perm.nodup_iff.mp nodup
      simp at once
  intro other member
  cases groups other member with
  | inl waits =>
    rw [noneWaits] at waits
    exact absurd waits.1 List.not_mem_nil
  | inr served => exact served.2

end Turns

end Gkrtos.RoundRobin
