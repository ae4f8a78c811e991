import Mathlib.Algebra.BigOperators.Group.Finset.Basic
import Gkrtos.ListFrames

/-! How many items there are. Every function of `list.c` that adds an item allocates one and
counts one list up by one, and the one that removes an item counts the list down and frees the
item, however the items are linked. So the lists count all the items that are allocated. -/
namespace Gkrtos

open Stateful

variable {D α : Type} {returns : α → Prop}

/-- The number of allocated items, and what the list structs say of them. -/
structure Tally where
  items : Nat
  lists : Nat
  length : ListPtr → Nat

def tally (store : ListStore D) : Tally :=
  ⟨store.allocated.length, store.lists, fun list => (store.header list).length⟩

namespace Tally

variable (t : Tally)

/-- One more item is allocated. -/
def allocate : Tally := { t with items := t.items + 1 }

/-- An item is freed. -/
def free : Tally := { t with items := t.items - 1 }

/-- A list is said to have so many items. -/
def count (list : ListPtr) (length : Nat) : Tally :=
  { t with length := Function.update t.length list length }

def countUp (list : ListPtr) : Tally := t.count list (t.length list + 1)

/-- An item is taken out of a list that has one. -/
def remove (list : ListPtr) : Tally :=
  if t.length list = 0 then t else (t.count list (t.length list - 1)).free

/-- One more list. -/
def new : Tally := { t with lists := t.lists + 1 }.count t.lists 0

/-- Every allocated item is counted by one of the lists. -/
def Balanced : Prop := t.items = ∑ list ∈ Finset.range t.lists, t.length list

variable {t} {list : ListPtr}

theorem sum_count (valid : list < t.lists) (length : Nat) :
    (∑ other ∈ Finset.range t.lists, (t.count list length).length other) + t.length list =
      (∑ other ∈ Finset.range t.lists, t.length other) + length := by
  have split (f : ListPtr → Nat) :
      f list + ∑ other ∈ (Finset.range t.lists).erase list, f other =
        ∑ other ∈ Finset.range t.lists, f other :=
    Finset.add_sum_erase _ f (Finset.mem_range.mpr valid)
  have others : ∑ other ∈ (Finset.range t.lists).erase list, (t.count list length).length other =
      ∑ other ∈ (Finset.range t.lists).erase list, t.length other :=
    Finset.sum_congr rfl fun other inside => Function.update_of_ne (Finset.ne_of_mem_erase inside) _ _
  have this : (t.count list length).length list = length := Function.update_self ..
  rw [← split, ← split t.length, others, this]
  omega

theorem Balanced.insert (balanced : t.Balanced) (valid : list < t.lists) :
    (t.allocate.countUp list).Balanced := by
  have sum := sum_count valid (t.length list + 1)
  have items : t.items = _ := balanced
  change t.items + 1 =
    ∑ other ∈ Finset.range t.lists, (t.count list (t.length list + 1)).length other
  omega

theorem Balanced.remove (balanced : t.Balanced) (valid : list < t.lists) :
    (t.remove list).Balanced := by
  unfold Tally.remove
  split_ifs with empty
  · exact balanced
  · have sum := sum_count valid (t.length list - 1)
    have items : t.items = _ := balanced
    change t.items - 1 = ∑ other ∈ Finset.range t.lists, (t.count list _).length other
    omega

theorem Balanced.new (balanced : t.Balanced) : t.new.Balanced := by
  have others : ∑ other ∈ Finset.range t.lists, t.new.length other =
      ∑ other ∈ Finset.range t.lists, t.length other :=
    Finset.sum_congr rfl fun other inside =>
      Function.update_of_ne (Nat.ne_of_lt (Finset.mem_range.mp inside)) _ _
  have this : t.new.length t.lists = 0 := Function.update_self ..
  have items : t.items = _ := balanced
  change t.items = ∑ other ∈ Finset.range (t.lists + 1), t.new.length other
  rw [Finset.sum_range_succ, others, this, items, Nat.add_zero]

end Tally

/-! ## Statements -/

/-- The heap has this tally. -/
def Counts (t : Tally) (store : ListStore D) : Prop := tally store = t

variable {t : Tally} {list : ListPtr} {item value : Addr} {after : ListStore D → Prop}

/-- A statement that counts nothing, before the rest. -/
theorem counts_after {β : Type} {program : ListM D β} {rest : β → ListM D α}
    (keeps : Keeps (fun _ => True) tally program)
    (follows : ∀ result, Yields (Counts t) (rest result) returns after) :
    Yields (Counts t) (program >>= rest) returns after := by
  have kept : Yields (Counts t) program (fun _ => True) (Counts t) :=
    keeps.triple fun _ _ same counts => same.trans counts
  exact triple_bind kept fun result _ => follows result

theorem tally_storeNext (item value : Addr) :
    Keeps (fun _ => True) tally (storeNext item value : ListM D Unit) :=
  keeps_bind (keeps_derefItem item) fun _ => keeps_modify fun _ => rfl

theorem tally_storePrev (item value : Addr) :
    Keeps (fun _ => True) tally (storePrev item value : ListM D Unit) :=
  keeps_bind (keeps_derefItem item) fun _ => keeps_modify fun _ => rfl

theorem tally_storeHead (list : ListPtr) (value : Addr) :
    Keeps (fun _ => True) tally (storeHead list value : ListM D Unit) := by
  apply keeps_bind (keeps_derefList list)
  intro valid
  apply keeps_modify
  intro store
  have lengths : (fun other => (Function.update store.header list
      { store.header list with head := value } other).length) =
      fun other => (store.header other).length := by
    funext other
    rcases eq_or_ne other list with rfl | different
    · rw [Function.update_self]
    · rw [Function.update_of_ne different]
  rw [tally, lengths]
  rfl

/-- What a list struct says is what is read off it, if there is such a list. -/
theorem counts_length {rest : Nat → ListM D α}
    (follows : list < t.lists → Yields (Counts t) (rest (t.length list)) returns after) :
    Yields (Counts t) (loadLength list >>= rest) returns after := by
  apply yields_of_ok
  rintro store result final rfl run
  by_cases valid : list < store.lists
  · rw [bind_apply, ListRefinement.loadLength_run valid] at run
    exact (follows valid).ok rfl run
  · simp [loadLength, derefList, valid] at run

theorem yields_storeLength (list : ListPtr) (length : Nat) :
    Yields (Counts t) (storeLength list length : ListM D Unit) (fun _ => True)
      (Counts (t.count list length)) := by
  apply yields_of_ok
  rintro store result final rfl run
  by_cases valid : list < store.lists
  · rw [ListRefinement.storeLength_run valid] at run
    cases run
    refine ⟨trivial, ?_⟩
    simp only [Counts, tally, Tally.count, Tally.mk.injEq, true_and]
    funext other
    rcases eq_or_ne other list with rfl | different
    · rw [Function.update_self, Function.update_self]
    · rw [Function.update_of_ne different, Function.update_of_ne different]
  · simp [storeLength, derefList, valid] at run

theorem yields_free (item : Addr) :
    Yields (Counts t) (freeItem item : ListM D Unit) (fun _ => True) (Counts t.free) := by
  apply yields_of_ok
  rintro store done final rfl run
  by_cases held : item ∈ store.allocated
  · rw [ListRefinement.freeItem_run held] at run
    cases run
    simp only [Counts, tally, Tally.free, List.length_erase_of_mem held, and_self]
  · simp [freeItem, derefItem, held] at run

theorem yields_countUp (valid : list < t.lists) :
    Yields (Counts t) (do storeLength list ((← loadLength list) + 1) : ListM D Unit)
      (fun _ => list < t.lists) (Counts (t.countUp list)) :=
  counts_length fun _ => (yields_storeLength list _).returns_imp fun _ _ => valid

/-- The first item of a list that was empty. -/
theorem yields_firstItem (valid : list < t.lists) (empty : t.length list = 0) (item : Addr) :
    Yields (Counts t) (do
      storeHead list item
      storeNext item item
      storePrev item item
      storeLength list 1 : ListM D Unit) (fun _ => list < t.lists) (Counts (t.countUp list)) := by
  apply counts_after (tally_storeHead list item)
  intro first
  apply counts_after (tally_storeNext item item)
  intro forth
  apply counts_after (tally_storePrev item item)
  intro back
  rw [Tally.countUp, empty]
  exact (yields_storeLength list 1).returns_imp fun _ _ => valid

/-! ## `list.c` -/

section New

variable [Malloc] [Inhabited D] {rawItem : D}

/-- An item is allocated and given its data, before it is linked in. -/
theorem counts_newItem {rest : Addr → ListM D α}
    (follows : ∀ item, Yields (Counts t.allocate) (rest item) returns after) :
    Yields (Counts t) (do
      let item ← listItemNew
      storeData item rawItem
      rest item) returns after := by
  apply yields_of_ok
  rintro store result final rfl run
  simp only [bind_apply, ListRefinement.listItemNew_run, List.mem_cons_self,
    ListRefinement.storeData_run] at run
  refine (follows _).ok ?_ run
  rfl

/-- It becomes the first item of an empty list, or it is linked in and the list counted up. -/
theorem counts_insert {link : Addr → ListM D Unit}
    (links : ∀ item, list < t.lists → Yields (Counts t.allocate) (link item)
      (fun _ => list < t.lists) (Counts (t.allocate.countUp list))) :
    Yields (Counts t) (do
      let item ← listItemNew
      storeData item rawItem
      if (← loadLength list) = 0 then
        storeHead list item
        storeNext item item
        storePrev item item
        storeLength list 1
      else link item) (fun _ => list < t.lists) (Counts (t.allocate.countUp list)) := by
  apply counts_newItem
  intro item
  apply counts_length
  intro valid
  split_ifs with empty
  · exact yields_firstItem valid empty item
  · exact links item valid

theorem counts_listAppend (list : ListPtr) :
    Yields (Counts t) (listAppend list rawItem) (fun _ => list < t.lists)
      (Counts (t.allocate.countUp list)) := by
  apply counts_insert
  intro item valid
  apply counts_after (keeps_loadHead list)
  intro head
  apply counts_after (keeps_loadPrev head)
  intro tail
  apply counts_after (tally_storeNext tail item)
  intro forth
  apply counts_after (tally_storePrev item tail)
  intro back
  apply counts_after (keeps_loadHead list)
  intro head'
  apply counts_after (tally_storeNext item head')
  intro around
  apply counts_after (keeps_loadHead list)
  intro head''
  apply counts_after (tally_storePrev head'' item)
  exact fun closed => yields_countUp valid

theorem counts_listPrepend (list : ListPtr) :
    Yields (Counts t) (listPrepend list rawItem) (fun _ => list < t.lists)
      (Counts (t.allocate.countUp list)) := by
  apply counts_insert
  intro item valid
  apply counts_after (keeps_loadHead list)
  intro head
  apply counts_after (keeps_loadNext head)
  intro second
  apply counts_after (tally_storeNext item second)
  intro forth
  apply counts_after (keeps_loadHead list)
  intro head'
  apply counts_after (tally_storePrev item head')
  intro back
  apply counts_after (keeps_loadNext item)
  intro second'
  apply counts_after (tally_storePrev second' item)
  intro behind
  apply counts_after (keeps_loadHead list)
  intro head''
  apply counts_after (tally_storeNext head'' item)
  exact fun closed => yields_countUp valid

theorem counts_listInsertHead (list : ListPtr) :
    Yields (Counts t) (listInsertHead list rawItem) (fun _ => list < t.lists)
      (Counts (t.allocate.countUp list)) := by
  apply counts_insert
  intro item valid
  apply counts_after (keeps_loadHead list)
  intro head
  apply counts_after (tally_storeNext item head)
  intro forth
  apply counts_after (keeps_loadHead list)
  intro head'
  apply counts_after (keeps_loadPrev head')
  intro tail
  apply counts_after (tally_storePrev item tail)
  intro back
  apply counts_after (keeps_loadHead list)
  intro head''
  apply counts_after (keeps_loadPrev head'')
  intro tail'
  apply counts_after (tally_storeNext tail' item)
  intro around
  apply counts_after (keeps_loadHead list)
  intro head'''
  apply counts_after (tally_storePrev head''' item)
  intro closed
  apply counts_after (tally_storeHead list item)
  exact fun first => yields_countUp valid

theorem counts_listInsertSorted (list : ListPtr) (sortFn : D → Addr → Addr → Bool) :
    Yields (Counts t) (listInsertSorted list rawItem sortFn) (fun _ => list < t.lists)
      (Counts (t.allocate.countUp list)) := by
  have insertBehind (valid : list < t.lists) : ∀ previous, Yields (Counts t) (do
      let newItem ← listItemNew
      storeData newItem rawItem
      let nextItem ← loadNext previous
      storeNext previous newItem
      storePrev newItem previous
      storeNext newItem nextItem
      storePrev nextItem newItem
      storeLength list ((← loadLength list) + 1)) (fun _ => list < t.lists)
      (Counts (t.allocate.countUp list)) := by
    intro previous
    apply counts_newItem
    intro item
    apply counts_after (keeps_loadNext previous)
    intro next
    apply counts_after (tally_storeNext previous item)
    intro forth
    apply counts_after (tally_storePrev item previous)
    intro back
    apply counts_after (tally_storeNext item next)
    intro forth'
    apply counts_after (tally_storePrev next item)
    exact fun back' => yields_countUp valid
  apply counts_length
  intro valid
  apply triple_ite (counts_listAppend list)
  apply counts_after (keeps_loadHead list)
  intro head
  apply counts_after (keeps_loadNext head)
  intro second
  apply triple_ite
  · exact insertBehind valid head
  · exact counts_after (keeps_loadNext head) fun previous => insertBehind valid previous

end New

/-- An empty list is left as it is. Otherwise the list is counted down and the item freed,
after the others have been linked over it. -/
theorem counts_listRemove (list : ListPtr) (item : Addr) :
    Yields (Counts t) (listRemove list item : ListM D Unit) (fun _ => list < t.lists)
      (Counts (t.remove list)) := by
  apply counts_length
  intro valid
  by_cases empty : t.length list = 0
  · rw [if_pos empty, Tally.remove, if_pos empty]
    exact triple_pure valid
  rw [if_neg empty, Tally.remove, if_neg empty]
  have finish : Yields (Counts t) (do
      storeLength list ((← loadLength list) - 1)
      freeItem item : ListM D Unit) (fun _ => list < t.lists)
      (Counts (t.count list (t.length list - 1)).free) := by
    apply counts_length
    intro _
    exact triple_bind (yields_storeLength list _) fun _ _ => (yields_free item).returns_imp fun _ _ => valid
  have linked {program : ListM D PUnit} (keeps : Keeps (fun _ => True) tally program) :
      Yields (Counts t) (do program; storeLength list ((← loadLength list) - 1); freeItem item)
        (fun _ => list < t.lists) (Counts (t.count list (t.length list - 1)).free) :=
    counts_after keeps fun _ => finish
  apply counts_after (keeps_loadHead list)
  intro head
  apply triple_ite
  case whenYes =>
    apply counts_after (keeps_loadNext item)
    intro next
    apply counts_after (tally_storeHead list next)
    intro moved
    apply counts_after (keeps_loadHead list)
    intro head'
    apply counts_after (keeps_loadPrev item)
    intro prev
    apply counts_after (tally_storePrev head' prev)
    intro back
    apply counts_after (keeps_loadPrev item)
    intro prev'
    apply counts_after (keeps_loadNext item)
    intro next'
    apply counts_after (tally_storeNext prev' next')
    intro forth
    apply counts_after (keeps_loadHead list)
    intro head''
    apply counts_after (keeps_loadNext head'')
    intro second
    apply triple_ite _ finish
    apply counts_after (keeps_loadHead list)
    intro alone
    apply counts_after (keeps_loadHead list)
    exact fun alone' => linked (tally_storeNext alone alone')
  case whenNo =>
    have behind : Yields (Counts t) (do
        if (← loadPrev (← loadPrev item)) = item then
          storePrev (← loadPrev item) (← loadPrev item)
        storeLength list ((← loadLength list) - 1)
        freeItem item : ListM D Unit) (fun _ => list < t.lists)
        (Counts (t.count list (t.length list - 1)).free) := by
      apply counts_after (keeps_loadPrev item)
      intro prev
      apply counts_after (keeps_loadPrev prev)
      intro before
      apply triple_ite _ finish
      apply counts_after (keeps_loadPrev item)
      intro alone
      apply counts_after (keeps_loadPrev item)
      exact fun alone' => linked (tally_storePrev alone alone')
    apply counts_after (keeps_loadPrev item)
    intro prev
    apply counts_after (keeps_loadNext item)
    intro next
    apply counts_after (tally_storeNext prev next)
    intro forth
    apply counts_after (keeps_loadNext item)
    intro next'
    apply counts_after (keeps_loadPrev item)
    intro prev'
    apply counts_after (tally_storePrev next' prev')
    intro back
    apply counts_after (keeps_loadNext item)
    intro next''
    apply counts_after (keeps_loadNext next'')
    intro beyond
    apply triple_ite _ behind
    apply counts_after (keeps_loadNext item)
    intro alone
    apply counts_after (keeps_loadNext item)
    intro alone'
    exact counts_after (tally_storeNext alone alone') fun _ => behind

theorem counts_listRotate (list : ListPtr) :
    Yields (Counts t) (listRotate list : ListM D (Option D)) (fun _ => True) (Counts t) := by
  apply counts_length
  intro valid
  apply triple_ite
  · apply counts_after (keeps_loadHead list)
    intro head
    apply counts_after (keeps_loadNext head)
    intro next
    apply counts_after (tally_storeHead list next)
    intro moved
    apply counts_after (keeps_loadHead list)
    intro head'
    exact counts_after (keeps_loadData head') fun _ => triple_pure trivial
  · exact triple_pure trivial

theorem counts_listNew :
    Yields (Counts t) (listNew : ListM D ListPtr) (fun _ => True) (Counts t.new) := by
  apply yields_of_ok
  rintro store list final rfl run
  cases run
  refine ⟨trivial, ?_⟩
  simp only [Counts, tally, Tally.new, Tally.count, Tally.mk.injEq, true_and]
  funext other
  rcases eq_or_ne other store.lists with rfl | different
  · rw [Function.update_self, Function.update_self]
  · rw [Function.update_of_ne different, Function.update_of_ne different]

end Gkrtos
