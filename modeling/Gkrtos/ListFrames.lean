import Gkrtos.ListRefinement

/-! What the functions of `list.c` leave alone in the heap, whether it is well formed
or not. Looking at a list changes nothing. Adding and removing an item rewrites
links and list structs only; besides that the heap gains the new item, with the data
pointer it is given, or loses the one that is freed. -/
namespace Gkrtos

open Stateful ListRefinement

variable {D ω α β : Type} {observe : ListStore D → ω} {list : ListPtr} {item value : Addr}

/-! ## Reading -/

theorem keeps_derefItem (item : Addr) :
    Keeps (fun _ => True) observe (derefItem item : ListM D Unit) :=
  keeps_bind keeps_get fun _ => keeps_ite (keeps_pure _) (keeps_throw trivial)

theorem keeps_derefList (list : ListPtr) :
    Keeps (fun _ => True) observe (derefList list : ListM D Unit) :=
  keeps_bind keeps_get fun _ => keeps_ite (keeps_pure _) (keeps_throw trivial)

theorem keeps_loadNext (item : Addr) : Keeps (fun _ => True) observe (loadNext item) :=
  keeps_bind (keeps_derefItem item) fun _ => keeps_bind keeps_get fun _ => keeps_pure _

theorem keeps_loadPrev (item : Addr) : Keeps (fun _ => True) observe (loadPrev item) :=
  keeps_bind (keeps_derefItem item) fun _ => keeps_bind keeps_get fun _ => keeps_pure _

theorem keeps_loadData (item : Addr) : Keeps (fun _ => True) observe (loadData item) :=
  keeps_bind (keeps_derefItem item) fun _ => keeps_bind keeps_get fun _ => keeps_pure _

theorem keeps_loadHead (list : ListPtr) : Keeps (fun _ => True) observe (loadHead list) :=
  keeps_bind (keeps_derefList list) fun _ => keeps_bind keeps_get fun _ => keeps_pure _

theorem keeps_loadLength (list : ListPtr) : Keeps (fun _ => True) observe (loadLength list) :=
  keeps_bind (keeps_derefList list) fun _ => keeps_bind keeps_get fun _ => keeps_pure _

theorem keeps_listIsEmpty (list : ListPtr) : Keeps (fun _ => True) observe (listIsEmpty list) :=
  keeps_bind (keeps_loadLength list) fun _ => keeps_pure _

theorem keeps_listGetHead (list : ListPtr) : Keeps (fun _ => True) observe (listGetHead list) :=
  keeps_bind (keeps_loadHead list) fun head => keeps_loadData head

/-- Whatever the head pointer points at. -/
theorem listGetHead_ok {store store' : ListStore D} {data : D}
    (run : listGetHead list store = .ok data store') : data = store.data (store.header list).head := by
  by_cases valid : list < store.lists
  · by_cases held : (store.header list).head ∈ store.allocated
    · simp [listGetHead, valid, held] at run
      exact run.1.symm
    · simp [listGetHead, loadData, derefItem, valid, held] at run
  · simp [listGetHead, loadHead, derefList, valid] at run

section Search

variable [DecidableEq D]

theorem keeps_listFindFrom (list : ListPtr) (data : D) (fuel : Nat) (item : Addr) :
    Keeps (fun _ => True) observe (listFindFrom list data fuel item) := by
  induction fuel generalizing item with
  | zero => exact keeps_throw trivial
  | succ fuel ih =>
    apply keeps_bind (keeps_loadHead list)
    intro head
    apply keeps_ite
    · exact keeps_pure null
    · apply keeps_bind (keeps_loadData item)
      intro found
      apply keeps_ite
      · exact keeps_pure item
      · exact keeps_bind (keeps_loadNext item) ih

theorem keeps_listGetItemWithData (list : ListPtr) (data : D) :
    Keeps (fun _ => True) observe (listGetItemWithData list data) := by
  apply keeps_bind (keeps_loadLength list)
  intro length
  apply keeps_ite
  · exact keeps_pure null
  · apply keeps_bind (keeps_loadHead list)
    intro head
    apply keeps_bind (keeps_loadData head)
    intro found
    apply keeps_ite
    · exact keeps_loadHead list
    · apply keeps_bind keeps_get
      intro store
      apply keeps_bind (keeps_loadHead list)
      intro head'
      exact keeps_bind (keeps_loadNext head') fun next => keeps_listFindFrom list data _ next

end Search

/-! ## Writing links -/

/-- The items and their data pointers, without the links between them. -/
def cargo (store : ListStore D) : List Addr × (Addr → D) := (store.allocated, store.data)

theorem keeps_storeNext (item value : Addr) :
    Keeps (fun _ => True) cargo (storeNext item value : ListM D Unit) :=
  keeps_bind (keeps_derefItem item) fun _ => keeps_modify fun _ => rfl

theorem keeps_storePrev (item value : Addr) :
    Keeps (fun _ => True) cargo (storePrev item value : ListM D Unit) :=
  keeps_bind (keeps_derefItem item) fun _ => keeps_modify fun _ => rfl

theorem keeps_storeHead (list : ListPtr) (value : Addr) :
    Keeps (fun _ => True) cargo (storeHead list value : ListM D Unit) :=
  keeps_bind (keeps_derefList list) fun _ => keeps_modify fun _ => rfl

theorem keeps_storeLength (list : ListPtr) (value : Nat) :
    Keeps (fun _ => True) cargo (storeLength list value : ListM D Unit) :=
  keeps_bind (keeps_derefList list) fun _ => keeps_modify fun _ => rfl

theorem keeps_listNew : Keeps (fun _ => True) cargo (listNew : ListM D ListPtr) :=
  keeps_bind keeps_get fun _ => keeps_bind (keeps_modify fun _ => rfl) fun _ => keeps_pure _

/-! ## Data pointers -/

/-- Every item, whichever list it is in, carries a data pointer of this kind. -/
def Carries (allowed : D → Prop) (store : ListStore D) : Prop :=
  ∀ item ∈ store.allocated, allowed (store.data item)

section Carries

variable {allowed : D → Prop} {rawItem : D}

theorem carries_of_cargo {store store' : ListStore D} (same : cargo store' = cargo store)
    (carries : Carries allowed store) : Carries allowed store' := by
  simp only [cargo, Prod.mk.injEq] at same
  intro item held
  rw [same.2]
  exact carries item (same.1 ▸ held)

/-- Links may be written at will. -/
theorem yields_links {program : ListM D α} (keeps : Keeps (fun _ => True) cargo program) :
    Yields (Carries allowed) program (fun _ => True) (Carries allowed) :=
  keeps.triple fun _ _ => carries_of_cargo

theorem yields_after {program : ListM D α} {rest : α → ListM D β} {returns : β → Prop}
    (keeps : Keeps (fun _ => True) cargo program)
    (follows : ∀ result, Yields (Carries allowed) (rest result) returns (Carries allowed)) :
    Yields (Carries allowed) (program >>= rest) returns (Carries allowed) :=
  triple_bind (yields_links keeps) fun result _ => follows result

theorem yields_loadData (item : Addr) :
    Yields (Carries allowed) (loadData item) allowed (Carries allowed) := by
  apply yields_of_ok
  intro store found store' carries run
  by_cases held : item ∈ store.allocated
  · rw [loadData_run held] at run
    cases run
    exact ⟨carries item held, carries⟩
  · simp [loadData, derefItem, held] at run

theorem yields_listGetHead (list : ListPtr) :
    Yields (Carries allowed) (listGetHead list) allowed (Carries allowed) :=
  yields_after (keeps_loadHead list) fun head => yields_loadData head

theorem yields_freeItem (item : Addr) :
    Yields (Carries allowed) (freeItem item) (fun _ => True) (Carries allowed) := by
  apply yields_of_ok
  intro store done store' carries run
  by_cases held : item ∈ store.allocated
  · rw [freeItem_run held] at run
    cases run
    exact ⟨trivial, fun other kept => carries other (List.mem_of_mem_erase kept)⟩
  · simp [freeItem, derefItem, held] at run

/-- The first item of a list. -/
theorem keeps_firstItem (list : ListPtr) (item : Addr) :
    Keeps (fun _ => True) cargo (do
      storeHead list item
      storeNext item item
      storePrev item item
      storeLength list 1 : ListM D Unit) := by
  apply keeps_bind (keeps_storeHead list item)
  intro first
  apply keeps_bind (keeps_storeNext item item)
  intro forth
  apply keeps_bind (keeps_storePrev item item)
  exact fun back => keeps_storeLength list 1

/-- One more item. -/
theorem keeps_countUp (list : ListPtr) :
    Keeps (fun _ => True) cargo (do storeLength list ((← loadLength list) + 1) : ListM D Unit) :=
  keeps_bind (keeps_loadLength list) fun _ => keeps_storeLength list _

section New

variable [Malloc] [Inhabited D]

/-- A new item carries what it is given, before it is linked in. -/
theorem yields_newItem (fits : allowed rawItem) {rest : Addr → ListM D α}
    (follows : ∀ item, Keeps (fun _ => True) cargo (rest item)) :
    Yields (Carries allowed) (do
      let item ← listItemNew
      storeData item rawItem
      rest item) (fun _ => True) (Carries allowed) := by
  apply yields_of_ok
  intro store result store' carries run
  simp only [bind_apply, listItemNew_run, List.mem_cons_self, storeData_run] at run
  refine ⟨trivial, carries_of_cargo ((follows _).ok run) fun item held => ?_⟩
  dsimp only at held ⊢
  rcases List.mem_cons.mp held with rfl | old
  · rw [Function.update_self]
    exact fits
  · have other : item ≠ Malloc.malloc store.allocated := by
      rintro rfl
      exact Malloc.malloc_fresh store.allocated old
    rw [Function.update_of_ne other, Function.update_of_ne other]
    exact carries item old

theorem yields_listAppend (fits : allowed rawItem) (list : ListPtr) :
    Yields (Carries allowed) (listAppend list rawItem) (fun _ => True) (Carries allowed) := by
  apply yields_newItem fits
  intro item
  apply keeps_bind (keeps_loadLength list)
  intro length
  apply keeps_ite (keeps_firstItem list item)
  apply keeps_bind (keeps_loadHead list)
  intro head
  apply keeps_bind (keeps_loadPrev head)
  intro tail
  apply keeps_bind (keeps_storeNext tail item)
  intro forth
  apply keeps_bind (keeps_storePrev item tail)
  intro back
  apply keeps_bind (keeps_loadHead list)
  intro head'
  apply keeps_bind (keeps_storeNext item head')
  intro around
  apply keeps_bind (keeps_loadHead list)
  intro head''
  apply keeps_bind (keeps_storePrev head'' item)
  exact fun closed => keeps_countUp list

theorem yields_listPrepend (fits : allowed rawItem) (list : ListPtr) :
    Yields (Carries allowed) (listPrepend list rawItem) (fun _ => True) (Carries allowed) := by
  apply yields_newItem fits
  intro item
  apply keeps_bind (keeps_loadLength list)
  intro length
  apply keeps_ite (keeps_firstItem list item)
  apply keeps_bind (keeps_loadHead list)
  intro head
  apply keeps_bind (keeps_loadNext head)
  intro second
  apply keeps_bind (keeps_storeNext item second)
  intro forth
  apply keeps_bind (keeps_loadHead list)
  intro head'
  apply keeps_bind (keeps_storePrev item head')
  intro back
  apply keeps_bind (keeps_loadNext item)
  intro second'
  apply keeps_bind (keeps_storePrev second' item)
  intro behind
  apply keeps_bind (keeps_loadHead list)
  intro head''
  apply keeps_bind (keeps_storeNext head'' item)
  exact fun closed => keeps_countUp list

theorem yields_listInsertHead (fits : allowed rawItem) (list : ListPtr) :
    Yields (Carries allowed) (listInsertHead list rawItem) (fun _ => True) (Carries allowed) := by
  apply yields_newItem fits
  intro item
  apply keeps_bind (keeps_loadLength list)
  intro length
  apply keeps_ite (keeps_firstItem list item)
  apply keeps_bind (keeps_loadHead list)
  intro head
  apply keeps_bind (keeps_storeNext item head)
  intro forth
  apply keeps_bind (keeps_loadHead list)
  intro head'
  apply keeps_bind (keeps_loadPrev head')
  intro tail
  apply keeps_bind (keeps_storePrev item tail)
  intro back
  apply keeps_bind (keeps_loadHead list)
  intro head''
  apply keeps_bind (keeps_loadPrev head'')
  intro tail'
  apply keeps_bind (keeps_storeNext tail' item)
  intro around
  apply keeps_bind (keeps_loadHead list)
  intro head'''
  apply keeps_bind (keeps_storePrev head''' item)
  intro closed
  apply keeps_bind (keeps_storeHead list item)
  exact fun first => keeps_countUp list

theorem yields_listInsertSorted (fits : allowed rawItem) (list : ListPtr)
    (sortFn : D → Addr → Addr → Bool) :
    Yields (Carries allowed) (listInsertSorted list rawItem sortFn) (fun _ => True)
      (Carries allowed) := by
  have insertBehind : ∀ previous, Yields (Carries allowed) (do
      let newItem ← listItemNew
      storeData newItem rawItem
      let nextItem ← loadNext previous
      storeNext previous newItem
      storePrev newItem previous
      storeNext newItem nextItem
      storePrev nextItem newItem
      storeLength list ((← loadLength list) + 1)) (fun _ => True) (Carries allowed) := by
    intro previous
    apply yields_newItem fits
    intro item
    apply keeps_bind (keeps_loadNext previous)
    intro next
    apply keeps_bind (keeps_storeNext previous item)
    intro forth
    apply keeps_bind (keeps_storePrev item previous)
    intro back
    apply keeps_bind (keeps_storeNext item next)
    intro forth'
    apply keeps_bind (keeps_storePrev next item)
    exact fun back' => keeps_countUp list
  apply yields_after (keeps_loadLength list)
  intro length
  apply triple_ite (yields_listAppend fits list)
  apply yields_after (keeps_loadHead list)
  intro head
  apply yields_after (keeps_loadNext head)
  intro second
  apply triple_ite
  · exact insertBehind head
  · exact yields_after (keeps_loadNext head) fun previous => insertBehind previous

end New

/-- What is removed is freed, after the others have been linked over it. -/
theorem yields_listRemove (list : ListPtr) (item : Addr) :
    Yields (Carries allowed) (listRemove list item) (fun _ => True) (Carries allowed) := by
  have finish : Yields (Carries allowed) (do
      storeLength list ((← loadLength list) - 1)
      freeItem item) (fun _ => True) (Carries allowed) := by
    apply yields_after (keeps_loadLength list)
    intro length
    apply yields_after (keeps_storeLength list _)
    exact fun counted => yields_freeItem item
  have linked {program : ListM D PUnit} (keeps : Keeps (fun _ => True) cargo program) :
      Yields (Carries allowed) (do program; storeLength list ((← loadLength list) - 1); freeItem item)
        (fun _ => True) (Carries allowed) :=
    yields_after keeps fun _ => finish
  apply yields_after (keeps_loadLength list)
  intro length
  apply triple_ite (triple_pure trivial)
  apply yields_after (keeps_loadHead list)
  intro head
  apply triple_ite
  case whenYes =>
    apply yields_after (keeps_loadNext item)
    intro next
    apply yields_after (keeps_storeHead list next)
    intro moved
    apply yields_after (keeps_loadHead list)
    intro head'
    apply yields_after (keeps_loadPrev item)
    intro prev
    apply yields_after (keeps_storePrev head' prev)
    intro back
    apply yields_after (keeps_loadPrev item)
    intro prev'
    apply yields_after (keeps_loadNext item)
    intro next'
    apply yields_after (keeps_storeNext prev' next')
    intro forth
    apply yields_after (keeps_loadHead list)
    intro head''
    apply yields_after (keeps_loadNext head'')
    intro second
    apply triple_ite _ finish
    apply yields_after (keeps_loadHead list)
    intro alone
    apply yields_after (keeps_loadHead list)
    exact fun alone' => linked (keeps_storeNext alone alone')
  case whenNo =>
    have behind : Yields (Carries allowed) (do
        if (← loadPrev (← loadPrev item)) = item then
          storePrev (← loadPrev item) (← loadPrev item)
        storeLength list ((← loadLength list) - 1)
        freeItem item) (fun _ => True) (Carries allowed) := by
      apply yields_after (keeps_loadPrev item)
      intro prev
      apply yields_after (keeps_loadPrev prev)
      intro before
      apply triple_ite _ finish
      apply yields_after (keeps_loadPrev item)
      intro alone
      apply yields_after (keeps_loadPrev item)
      exact fun alone' => linked (keeps_storePrev alone alone')
    apply yields_after (keeps_loadPrev item)
    intro prev
    apply yields_after (keeps_loadNext item)
    intro next
    apply yields_after (keeps_storeNext prev next)
    intro forth
    apply yields_after (keeps_loadNext item)
    intro next'
    apply yields_after (keeps_loadPrev item)
    intro prev'
    apply yields_after (keeps_storePrev next' prev')
    intro back
    apply yields_after (keeps_loadNext item)
    intro next''
    apply yields_after (keeps_loadNext next'')
    intro beyond
    apply triple_ite _ behind
    apply yields_after (keeps_loadNext item)
    intro alone
    apply yields_after (keeps_loadNext item)
    intro alone'
    exact yields_after (keeps_storeNext alone alone') fun _ => behind

theorem yields_listRotate (list : ListPtr) :
    Yields (Carries allowed) (listRotate list) (fun _ => True) (Carries allowed) := by
  apply yields_after (keeps_loadLength list)
  intro length
  apply triple_ite
  · apply yields_after (keeps_loadHead list)
    intro head
    apply yields_after (keeps_loadNext head)
    intro next
    apply yields_after (keeps_storeHead list next)
    intro turned
    apply yields_after (keeps_loadHead list)
    intro head'
    exact triple_bind (yields_loadData head') fun _ _ => triple_pure trivial
  · exact triple_pure trivial

end Carries

end Gkrtos
