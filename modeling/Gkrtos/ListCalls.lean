import Mathlib.Data.List.Rotate
import Gkrtos.ListRefinement

/-! Any sequence of calls into `list.c`, on any number of lists. The lists stand
for sequences of data pointers, and a call changes the sequence of its own list
in the way its name says and no other one. The ring behind each sequence is made
of allocated nodes of its own, linked both ways; an empty list has none, wherever
its head pointer still points. -/
namespace Gkrtos.ListRefinement
open CircularList Malloc

variable {D : Type}

/-! ## Calls -/

/-- A call into the list API. The item that is removed is named by its position
in the list. -/
inductive Call (D : Type) where
  | new
  | append (list : ListPtr) (rawItem : D)
  | prepend (list : ListPtr) (rawItem : D)
  | insertHead (list : ListPtr) (rawItem : D)
  | insertSorted (list : ListPtr) (rawItem : D) (sortFn : D → Addr → Addr → Bool)
  | remove (list : ListPtr) (position : Nat)
  | rotate (list : ListPtr)

/-- The code of a call. The caller of `gkrtos_list_remove` holds a pointer to
the item. -/
def Call.perform [Malloc] [Inhabited D] : Call D → ListM D Unit
  | .new => do let _ ← listNew
  | .append list rawItem => listAppend list rawItem
  | .prepend list rawItem => listPrepend list rawItem
  | .insertHead list rawItem => listInsertHead list rawItem
  | .insertSorted list rawItem sortFn => listInsertSorted list rawItem sortFn
  | .remove list position => do listRemove list ((items (← get) list)[position]?.getD null)
  | .rotate list => do let _ ← listRotate list

/-- The list exists, and an item to be removed is in it. -/
def Call.Allowed (store : ListStore D) : Call D → Prop
  | .new => True
  | .append list _ | .prepend list _ | .insertHead list _ | .insertSorted list _ _
  | .rotate list => list < store.lists
  | .remove list position => list < store.lists ∧ position < (items store list).length

instance (store : ListStore D) : DecidablePred fun call : Call D => call.Allowed store
  | .new => inferInstanceAs (Decidable True)
  | .append _ _ | .prepend _ _ | .insertHead _ _ | .insertSorted _ _ _ | .rotate _ =>
    inferInstanceAs (Decidable (_ < _))
  | .remove _ _ => inferInstanceAs (Decidable (_ ∧ _))

/-- These calls one after the other. -/
def Performs [Malloc] [Inhabited D] : List (Call D) → ListStore D → ListStore D → Prop
  | [], store, final => store = final
  | call :: rest, store, final => call.Allowed store ∧
    ∃ next, call.perform store = .ok () next ∧ Performs rest next final

/-! ## Sequences -/

/-- What a call does to the sequences the lists stand for. Sorted insertion may
put the new element anywhere behind the first one. -/
inductive Call.Changes : Call D → List (List D) → List (List D) → Prop where
  | new {sequences : List (List D)} : Changes .new sequences (sequences ++ [[]])
  | append {sequences : List (List D)} {list : ListPtr} {sequence : List D} {rawItem : D}
      (found : sequences[list]? = some sequence) :
      Changes (.append list rawItem) sequences (sequences.set list (sequence ++ [rawItem]))
  | prepend {sequences : List (List D)} {list : ListPtr} {sequence : List D} {rawItem : D}
      (found : sequences[list]? = some sequence) :
      Changes (.prepend list rawItem) sequences
        (sequences.set list (insertSecond rawItem sequence))
  | insertHead {sequences : List (List D)} {list : ListPtr} {sequence : List D} {rawItem : D}
      (found : sequences[list]? = some sequence) :
      Changes (.insertHead list rawItem) sequences (sequences.set list (rawItem :: sequence))
  | insertSorted {sequences : List (List D)} {list : ListPtr} {front back : List D} {rawItem : D}
      {sortFn : D → Addr → Addr → Bool} (found : sequences[list]? = some (front ++ back))
      (behindHead : front = [] → back = []) :
      Changes (.insertSorted list rawItem sortFn) sequences
        (sequences.set list (front ++ rawItem :: back))
  | remove {sequences : List (List D)} {list : ListPtr} {sequence : List D} {position : Nat}
      (found : sequences[list]? = some sequence) (inside : position < sequence.length) :
      Changes (.remove list position) sequences (sequences.set list (sequence.eraseIdx position))
  | rotate {sequences : List (List D)} {list : ListPtr} {sequence : List D}
      (found : sequences[list]? = some sequence) :
      Changes (.rotate list) sequences (sequences.set list (sequence.rotate 1))

/-- What these calls do in turn. -/
inductive Changes : List (Call D) → List (List D) → List (List D) → Prop where
  | nil {sequences : List (List D)} : Changes [] sequences sequences
  | cons {call : Call D} {rest : List (Call D)} {sequences next final : List (List D)}
      (first : call.Changes sequences next) (others : Changes rest next final) :
      Changes (call :: rest) sequences final

variable {store store' : ListStore D} {sequences : List (List D)} {list : ListPtr}

/-- The heap holds these sequences: each list is a cycle of as many distinct
allocated nodes as it counts, linked both ways and read from the head, and no
two lists share a node. -/
structure Holds (store : ListStore D) (sequences : List (List D)) : Prop where
  count : sequences.length = store.lists
  rings : ∃ nodes, Owns store nodes ∧ ∀ list < store.lists, ∀ item ∈ nodes list,
    store.prev (store.next item) = item ∧ store.next (store.prev item) = item
  same : ∀ list < store.lists, sequences[list]? = some (contents store list)

theorem holds_of_wellFormed (wf : WellFormed store) (count : sequences.length = store.lists)
    (same : ∀ list < store.lists, sequences[list]? = some (contents store list)) :
    Holds store sequences := by
  obtain ⟨nodes, owns⟩ := wf
  refine ⟨count, ⟨nodes, owns, ?_⟩, same⟩
  intro list valid item member
  obtain ⟨-, -, back, forth⟩ := ring_neighbours (owns.represents list valid).isRing member
  exact ⟨back, forth⟩

theorem Holds.wellFormed (holds : Holds store sequences) : WellFormed store := by
  obtain ⟨nodes, owns, -⟩ := holds.rings
  exact ⟨nodes, owns⟩

theorem holds_initial [Inhabited D] : Holds (ListStore.initial : ListStore D) [] := by
  apply holds_of_wellFormed
  · refine ⟨fun _ => [], ⟨?_, ?_, .nil, by simp [ListStore.initial]⟩⟩
    · exact fun list valid => absurd valid (Nat.not_lt_zero list)
    · exact fun list valid => absurd valid (Nat.not_lt_zero list)
  · rfl
  · exact fun list valid => absurd valid (Nat.not_lt_zero list)

/-- Updating one list changes its sequence alone. -/
theorem holds_of_updated {sequence : List D} (holds : Holds store sequences)
    (valid : list < store.lists) (updated : Updated store list sequence store') :
    Holds store' (sequences.set list sequence) := by
  apply holds_of_wellFormed updated.wellFormed
  · rw [List.length_set, updated.lists]
    exact holds.count
  · intro other otherValid
    rw [updated.lists] at otherValid
    by_cases same : other = list
    · rw [same, updated.same, List.getElem?_set_self (holds.count ▸ valid)]
    · rw [List.getElem?_set_ne (Ne.symm same), updated.others other otherValid same]
      exact holds.same other otherValid

/-- A new list is numbered next and holds the empty sequence. -/
theorem holds_new (holds : Holds store sequences) (wf : WellFormed store')
    (lists : store'.lists = store.lists + 1) (empty : contents store' store.lists = [])
    (others : ∀ other < store.lists, contents store' other = contents store other) :
    Holds store' (sequences ++ [[]]) := by
  apply holds_of_wellFormed wf
  · simp [lists, holds.count]
  · intro other otherValid
    by_cases newest : other = store.lists
    · rw [newest, empty, ← holds.count, List.getElem?_concat_length]
    · have old : other < store.lists := by omega
      rw [List.getElem?_append_left (holds.count ▸ old), others other old]
      exact holds.same other old

/-! ## Calls on the heap -/

section Calls

variable [Malloc] [Inhabited D]

/-- A call on a heap that holds sequences returns, and the heap then holds the
changed ones. -/
theorem perform_refines {call : Call D} (holds : Holds store sequences)
    (allowed : call.Allowed store) :
    ∃ store' sequences', call.perform store = .ok () store' ∧ call.Changes sequences sequences' ∧
      Holds store' sequences' := by
  have wf := holds.wellFormed
  cases call with
  | new =>
    obtain ⟨store', run, wf', lists, empty, others⟩ := listNew_spec wf
    refine ⟨store', sequences ++ [[]], ?_, .new, holds_new holds wf' lists empty others⟩
    simp [Call.perform, run]
  | append list rawItem =>
    obtain ⟨store', run, updated⟩ := listAppend_spec wf allowed rawItem
    exact ⟨store', _, run, .append (holds.same list allowed), holds_of_updated holds allowed updated⟩
  | prepend list rawItem =>
    obtain ⟨store', run, updated⟩ := listPrepend_spec wf allowed rawItem
    exact ⟨store', _, run, .prepend (holds.same list allowed), holds_of_updated holds allowed updated⟩
  | insertHead list rawItem =>
    obtain ⟨store', run, updated⟩ := listInsertHead_spec wf allowed rawItem
    exact ⟨store', _, run, .insertHead (holds.same list allowed),
      holds_of_updated holds allowed updated⟩
  | insertSorted list rawItem sortFn =>
    obtain ⟨store', run, updated⟩ := listInsertSorted_spec wf allowed rawItem sortFn
    obtain ⟨front, back, shape, behindHead, inserted⟩ := insertBehind_split _ rawItem _
    rw [inserted] at updated
    have found := holds.same list allowed
    rw [shape] at found
    exact ⟨store', _, run, .insertSorted found behindHead, holds_of_updated holds allowed updated⟩
  | remove list position =>
    obtain ⟨valid, inside⟩ := allowed
    have isItem : (items store list)[position]? = some ((items store list)[position]?.getD null) := by
      simp [inside]
    obtain ⟨store', run, updated⟩ := listRemoveItem_spec wf valid isItem
    have shorter : position < (contents store list).length := by
      rw [contents, List.length_map]
      exact inside
    refine ⟨store', _, ?_, .remove (holds.same list valid) shorter,
      holds_of_updated holds valid updated⟩
    simp [Call.perform, run]
  | rotate list =>
    have found := holds.same list allowed
    cases sequence : contents store list with
    | nil =>
      have run := listRotate_empty wf allowed sequence
      have unchanged : sequences.set list ([] : List D) = sequences := by
        rw [sequence] at found
        obtain ⟨inside, at_list⟩ := List.getElem?_eq_some_iff.mp found
        rw [← at_list, List.set_getElem_self]
      rw [sequence] at found
      refine ⟨store, _, ?_, .rotate found, ?_⟩
      · simp [Call.perform, run]
      · rw [List.rotate_nil, unchanged]
        exact holds
    | cons first rest =>
      obtain ⟨store', run, updated⟩ := listRotate_spec wf allowed sequence
      rw [sequence] at found
      refine ⟨store', _, ?_, .rotate found, ?_⟩
      · simp [Call.perform, run]
      · rw [List.rotate_cons_succ, List.rotate_zero]
        exact holds_of_updated holds allowed updated

/-- The induction is on the calls; each starts at a heap that holds sequences. -/
theorem performs_refine {calls : List (Call D)} (run : Performs calls store store')
    (holds : Holds store sequences) :
    ∃ final, Changes calls sequences final ∧ Holds store' final := by
  induction calls generalizing store sequences with
  | nil =>
    obtain rfl : store = store' := run
    exact ⟨sequences, .nil, holds⟩
  | cons call rest ih =>
    obtain ⟨allowed, next, performed, others⟩ := run
    obtain ⟨next', changed, performed', first, holds'⟩ := perform_refines holds allowed
    rw [performed', EStateM.Result.ok.injEq] at performed
    obtain rfl : next' = next := performed.2
    obtain ⟨final, changes, held⟩ := ih others holds'
    exact ⟨final, .cons first changes, held⟩

/-- After any calls the heap holds sequences changed as the calls say, and every
further call returns. -/
theorem list_api_refines {calls : List (Call D)} (run : Performs calls ListStore.initial store) :
    (∃ sequences, Changes calls [] sequences ∧ Holds store sequences) ∧
      ∀ call : Call D, call.Allowed store → ∃ store', call.perform store = .ok () store' := by
  obtain ⟨sequences, changes, holds⟩ := performs_refine run holds_initial
  constructor
  · exact ⟨sequences, changes, holds⟩
  · intro call allowed
    obtain ⟨store', -, performed, -, -⟩ := perform_refines holds allowed
    exact ⟨store', performed⟩

end Calls

section Example

attribute [local instance] Malloc.reference

/-- These calls one after the other, as long as they are allowed. -/
private def performAll : List (Call Nat) → ListStore Nat → Option (ListStore Nat)
  | [], store => some store
  | call :: rest, store =>
    if call.Allowed store then
      match call.perform store with
      | .ok _ store' => performAll rest store'
      | .error _ _ => none
    else none

private theorem performs_of_performAll {calls : List (Call Nat)} {store final : ListStore Nat}
    (run : performAll calls store = some final) : Performs calls store final := by
  induction calls generalizing store with
  | nil => exact Option.some.inj run
  | cons call rest ih =>
    rw [performAll] at run
    split at run
    case isTrue allowed =>
      split at run
      case h_1 result store' performed => exact ⟨allowed, store', performed, ih run⟩
      case h_2 => exact absurd run (by simp)
    case isFalse => exact absurd run (by simp)

/-- Two lists; the first one is emptied, and filled again while its head pointer
is stale. -/
private def refill : List (Call Nat) :=
  [.new, .new, .append 0 7, .insertHead 1 4, .remove 0 0, .prepend 0 5, .prepend 0 6,
    .insertSorted 0 9 (fun _ _ _ => false), .rotate 0, .remove 0 1]

private def refilled : Option (ListStore Nat) := performAll refill ListStore.initial

private theorem refilled_isSome : refilled.isSome := by decide +kernel

theorem list_api_refines_example : ∃ store : ListStore Nat,
    Performs refill ListStore.initial store ∧ contents store 0 = [6, 5] ∧ contents store 1 = [4] ∧
      ((∃ sequences, Changes refill [] sequences ∧ Holds store sequences) ∧
        ∀ call : Call Nat, call.Allowed store → ∃ store', call.perform store = .ok () store') := by
  have performs : Performs refill ListStore.initial (refilled.get refilled_isSome) :=
    performs_of_performAll (Option.some_get refilled_isSome).symm
  exact ⟨_, performs, by decide +kernel, by decide +kernel, list_api_refines performs⟩

end Example

end Gkrtos.ListRefinement
