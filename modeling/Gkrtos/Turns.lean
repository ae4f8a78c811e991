import Mathlib.Algebra.BigOperators.Group.Finset.Piecewise
import Mathlib.Algebra.Order.BigOperators.Group.Finset
import Mathlib.Tactic.Ring

/-! Time sharing. One holder at a time has the processor, for turns that follow each
other. At the end of a turn its whole units of time are charged to the holder, or the
turn is left out of the account. What is charged falls short of what was spent by less
than a unit for each counted turn, and nobody is charged for the same time twice. -/
namespace Gkrtos.Turns

variable {κ : Type}

structure Turn (κ : Type) where
  holder : κ
  began : Nat
  ended : Nat
  counted : Bool
  deriving DecidableEq, Repr

variable {start stop unit : Nat} {turns : List (Turn κ)}

def Turn.duration (turn : Turn κ) : Nat := turn.ended - turn.began

/-- The whole units of the turn, if it counts. -/
def Turn.charge (unit : Nat) (turn : Turn κ) : Nat :=
  if turn.counted then turn.duration / unit else 0

def total (turns : List (Turn κ)) : Nat := (turns.map Turn.duration).sum

def charges (unit : Nat) (turns : List (Turn κ)) : Nat := (turns.map (Turn.charge unit)).sum

theorem total_concat (turns : List (Turn κ)) (turn : Turn κ) :
    total (turns ++ [turn]) = total turns + turn.duration := by
  simp [total]

theorem charges_concat (unit : Nat) (turns : List (Turn κ)) (turn : Turn κ) :
    charges unit (turns ++ [turn]) = charges unit turns + turn.charge unit := by
  simp [charges]

/-! ## What is charged and what was spent -/

theorem Turn.charge_le (unit : Nat) (turn : Turn κ) : unit * turn.charge unit ≤ turn.duration := by
  unfold Turn.charge
  split
  · exact Nat.mul_div_le turn.duration unit
  · exact Nat.zero_le _

/-- A counted turn is charged but for the rest of a unit. -/
theorem Turn.duration_le (positive : 0 < unit) {turn : Turn κ} (counted : turn.counted) :
    turn.duration ≤ unit * turn.charge unit + (unit - 1) := by
  rw [Turn.charge, if_pos counted]
  have whole := Nat.div_add_mod turn.duration unit
  have rest : turn.duration % unit ≤ unit - 1 := Nat.le_sub_one_of_lt (Nat.mod_lt _ positive)
  omega

theorem charges_le_total (unit : Nat) (turns : List (Turn κ)) :
    unit * charges unit turns ≤ total turns := by
  induction turns with
  | nil => exact Nat.zero_le _
  | cons turn rest ih =>
    simp only [charges, total, List.map_cons, List.sum_cons, Nat.mul_add]
    exact Nat.add_le_add (turn.charge_le unit) ih

theorem total_le_charges (positive : 0 < unit) (counted : ∀ turn ∈ turns, turn.counted) :
    total turns ≤ unit * charges unit turns + (unit - 1) * turns.length := by
  induction turns with
  | nil => exact Nat.zero_le _
  | cons turn rest ih =>
    have first := Turn.duration_le positive (counted turn List.mem_cons_self)
    have others := ih fun other member => counted other (List.mem_cons_of_mem turn member)
    calc
      total (turn :: rest) = turn.duration + total rest := by simp [total]
      _ ≤ (unit * turn.charge unit + (unit - 1)) +
          (unit * charges unit rest + (unit - 1) * rest.length) := Nat.add_le_add first others
      _ = unit * charges unit (turn :: rest) + (unit - 1) * (turn :: rest).length := by
        simp only [charges, List.map_cons, List.sum_cons, List.length_cons]
        ring

/-! ## Everybody's turns -/

section Holders

variable [DecidableEq κ]

def heldBy (holder : κ) (turns : List (Turn κ)) : List (Turn κ) :=
  turns.filter fun turn => turn.holder = holder

theorem mem_heldBy {holder : κ} {turn : Turn κ} :
    turn ∈ heldBy holder turns ↔ turn ∈ turns ∧ turn.holder = holder := by
  simp [heldBy]

theorem heldBy_concat (holder : κ) (turns : List (Turn κ)) (turn : Turn κ) :
    heldBy holder (turns ++ [turn]) =
      if turn.holder = holder then heldBy holder turns ++ [turn] else heldBy holder turns := by
  by_cases own : turn.holder = holder
  · simp [heldBy, own]
  · simp [heldBy, own]

/-- A turn has one holder. -/
theorem sum_total_heldBy_le (holders : Finset κ) (turns : List (Turn κ)) :
    ∑ holder ∈ holders, total (heldBy holder turns) ≤ total turns := by
  induction turns with
  | nil => simp [total, heldBy]
  | cons turn rest ih =>
    have split : ∀ holder, total (heldBy holder (turn :: rest)) =
        (if turn.holder = holder then turn.duration else 0) + total (heldBy holder rest) := by
      intro holder
      by_cases own : turn.holder = holder
      · simp [heldBy, total, own]
      · simp [heldBy, own]
    calc
      ∑ holder ∈ holders, total (heldBy holder (turn :: rest)) =
          (if turn.holder ∈ holders then turn.duration else 0) +
            ∑ holder ∈ holders, total (heldBy holder rest) := by
        simp only [split, Finset.sum_add_distrib, Finset.sum_ite_eq]
      _ ≤ turn.duration + total rest := by
        apply Nat.add_le_add _ ih
        split_ifs
        · exact Nat.le_refl _
        · exact Nat.zero_le _
      _ = total (turn :: rest) := by simp [total]

end Holders

/-! ## One after the other -/

/-- Each turn begins when the one before has been handed over, after its end. The first
begins at the start, and the next would begin at `stop`. -/
inductive Successive (start : Nat) : List (Turn κ) → Nat → Prop where
  | none : Successive start [] start
  | next {turns : List (Turn κ)} {turn : Turn κ} {resumed : Nat}
      (earlier : Successive start turns turn.began) (ordered : turn.began ≤ turn.ended)
      (handed : turn.ended ≤ resumed) : Successive start (turns ++ [turn]) resumed

/-- So together they take no more time than passes. -/
theorem Successive.total_le (successive : Successive start turns stop) :
    start + total turns ≤ stop := by
  induction successive with
  | none => exact Nat.le_refl _
  | @next turns turn resumed earlier ordered handed ih =>
    rw [total_concat, Turn.duration]
    omega

/-- And no holder is charged for more than that. -/
theorem Successive.charges_le [DecidableEq κ] (successive : Successive start turns stop)
    (unit : Nat) (holder : κ) : start + unit * charges unit (heldBy holder turns) ≤ stop := by
  have own := charges_le_total unit (heldBy holder turns)
  have all := sum_total_heldBy_le {holder} turns
  rw [Finset.sum_singleton] at all
  have passed := successive.total_le
  omega

theorem Successive.sum_charges_le [DecidableEq κ] (successive : Successive start turns stop)
    (unit : Nat) (holders : Finset κ) :
    start + ∑ holder ∈ holders, unit * charges unit (heldBy holder turns) ≤ stop :=
  calc
    start + ∑ holder ∈ holders, unit * charges unit (heldBy holder turns) ≤
        start + ∑ holder ∈ holders, total (heldBy holder turns) :=
      Nat.add_le_add_left (Finset.sum_le_sum fun _ _ => charges_le_total unit _) start
    _ ≤ start + total turns := Nat.add_le_add_left (sum_total_heldBy_le holders turns) start
    _ ≤ stop := successive.total_le

end Gkrtos.Turns
