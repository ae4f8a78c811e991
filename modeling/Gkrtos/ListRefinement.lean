import Mathlib.Data.List.Nodup
import Mathlib.Data.List.Perm.Subperm
import Gkrtos.CircularList
import Gkrtos.List
import Gkrtos.Stateful

/-! What the pointer code of `list.c` does to the sequences the lists stand
for. A well-formed heap holds disjoint rings of allocated nodes, one for each
list; the contents of a list are the data pointers read once around its ring
from the head. Every operation on a list of a well-formed heap keeps the heap
well formed, changes the contents of that list in the way its name says, and
leaves the contents of every other list alone. -/
namespace Gkrtos.ListRefinement
open Stateful CircularList Malloc

variable {D : Type} {store store' : ListStore D} {list : ListPtr} {item value : Addr}
variable {nodes : ListPtr → List Addr}

/-! ## Runs of the memory accesses -/

@[simp] theorem derefItem_run (held : item ∈ store.allocated) :
    derefItem item store = .ok () store := by
  simp [derefItem, held]

@[simp] theorem derefList_run (valid : list < store.lists) :
    derefList list store = .ok () store := by
  simp [derefList, valid]

@[simp] theorem loadNext_run (held : item ∈ store.allocated) :
    loadNext item store = .ok (store.next item) store := by
  simp [loadNext, held]

@[simp] theorem loadPrev_run (held : item ∈ store.allocated) :
    loadPrev item store = .ok (store.prev item) store := by
  simp [loadPrev, held]

@[simp] theorem loadData_run (held : item ∈ store.allocated) :
    loadData item store = .ok (store.data item) store := by
  simp [loadData, held]

@[simp] theorem storeNext_run (held : item ∈ store.allocated) : storeNext item value store =
    .ok () { store with next := Function.update store.next item value } := by
  simp [storeNext, held]

@[simp] theorem storePrev_run (held : item ∈ store.allocated) : storePrev item value store =
    .ok () { store with prev := Function.update store.prev item value } := by
  simp [storePrev, held]

@[simp] theorem storeData_run {value : D} (held : item ∈ store.allocated) :
    storeData item value store =
      .ok () { store with data := Function.update store.data item value } := by
  simp [storeData, held]

@[simp] theorem loadHead_run (valid : list < store.lists) :
    loadHead list store = .ok (store.header list).head store := by
  simp [loadHead, valid]

@[simp] theorem loadLength_run (valid : list < store.lists) :
    loadLength list store = .ok (store.header list).length store := by
  simp [loadLength, valid]

@[simp] theorem storeHead_run (valid : list < store.lists) : storeHead list value store =
    .ok () { store with
      header := Function.update store.header list { store.header list with head := value } } := by
  simp [storeHead, valid]

@[simp] theorem storeLength_run {value : Nat} (valid : list < store.lists) :
    storeLength list value store = .ok () { store with
      header := Function.update store.header list { store.header list with length := value } } := by
  simp [storeLength, valid]

@[simp] theorem freeItem_run (held : item ∈ store.allocated) : freeItem item store =
    .ok () { store with allocated := store.allocated.erase item } := by
  simp [freeItem, held]

/-- A new node is a fresh allocated block; its fields are about to be set. -/
@[simp] theorem listItemNew_run [Malloc] [Inhabited D] : listItemNew store =
    .ok (malloc store.allocated) { store with
      allocated := malloc store.allocated :: store.allocated
      next := Function.update store.next (malloc store.allocated) null
      prev := Function.update store.prev (malloc store.allocated) null
      data := Function.update store.data (malloc store.allocated) default } := by
  simp [listItemNew, mallocItem]

/-! ## Well-formed heaps -/

/-- The list struct names the first node of this ring of allocated nodes and
counts its nodes. -/
structure Represents (store : ListStore D) (list : ListPtr) (ring : List Addr) : Prop where
  isRing : Ring store.next store.prev ring
  distinct : ring.Nodup
  held : ∀ item ∈ ring, item ∈ store.allocated
  length : (store.header list).length = ring.length
  head : ∀ item ∈ ring.head?, (store.header list).head = item

/-- Every list has its own ring, and no node belongs to two of them. -/
structure Owns (store : ListStore D) (nodes : ListPtr → List Addr) : Prop where
  represents : ∀ list < store.lists, Represents store list (nodes list)
  apart : ∀ list < store.lists, ∀ other < store.lists, list ≠ other →
    (nodes list).Disjoint (nodes other)
  blocks : store.allocated.Nodup
  null_free : null ∉ store.allocated

def WellFormed (store : ListStore D) : Prop := ∃ nodes, Owns store nodes

/-- The data pointers of a list in head order. -/
def contents (store : ListStore D) (list : ListPtr) : List D :=
  (follow store.next (store.header list).length (store.header list).head).map store.data

/-- The items of a list in head order. -/
def items (store : ListStore D) (list : ListPtr) : List Addr :=
  follow store.next (store.header list).length (store.header list).head

theorem items_represented {ring : List Addr} (represents : Represents store list ring) :
    items store list = ring := by
  have length := represents.length
  have head := represents.head
  unfold items
  cases ring with
  | nil => simp [length, follow]
  | cons first rest => rw [length, head first (by simp), follow_ring represents.isRing]

theorem contents_represented {ring : List Addr} (represents : Represents store list ring) :
    contents store list = ring.map store.data :=
  congrArg (List.map store.data) (items_represented represents)

theorem length_contents (store : ListStore D) (list : ListPtr) :
    (contents store list).length = (store.header list).length := by
  rw [contents, List.length_map, follow_length]

/-- The memory an operation must not touch when it works on one list: the
allocated nodes that are not in its ring. -/
structure Elsewhere (store : ListStore D) (ring : List Addr) (store' : ListStore D) : Prop where
  held : ∀ item ∈ store.allocated, item ∉ ring → item ∈ store'.allocated
  next : ∀ item ∈ store.allocated, item ∉ ring → store'.next item = store.next item
  prev : ∀ item ∈ store.allocated, item ∉ ring → store'.prev item = store.prev item
  data : ∀ item ∈ store.allocated, item ∉ ring → store'.data item = store.data item

private theorem represents_elsewhere {ring touched : List Addr}
    (represents : Represents store list ring) (elsewhere : Elsewhere store touched store')
    (apart : ring.Disjoint touched) (header : store'.header list = store.header list) :
    Represents store' list ring ∧ ring.map store'.data = ring.map store.data := by
  have outside : ∀ item ∈ ring, item ∈ store.allocated ∧ item ∉ touched :=
    fun item member => ⟨represents.held item member, fun shared => apart member shared⟩
  refine ⟨⟨?_, represents.distinct, ?_, ?_, ?_⟩, ?_⟩
  · exact ring_unchanged represents.isRing
      (fun item member => elsewhere.next item (outside item member).1 (outside item member).2)
      (fun item member => elsewhere.prev item (outside item member).1 (outside item member).2)
  · exact fun item member => elsewhere.held item (outside item member).1 (outside item member).2
  · rw [header]
    exact represents.length
  · rw [header]
    exact represents.head
  · exact List.map_congr_left
      (fun item member => elsewhere.data item (outside item member).1 (outside item member).2)

/-- What an operation on one list leaves behind: a well-formed heap with the
same lists, where that list has the given contents and the others have theirs. -/
structure Updated (store : ListStore D) (list : ListPtr) (sequence : List D)
    (store' : ListStore D) : Prop where
  wellFormed : WellFormed store'
  lists : store'.lists = store.lists
  same : contents store' list = sequence
  others : ∀ other < store.lists, other ≠ list → contents store' other = contents store other

/-- Giving one list another ring, made of its own nodes and fresh ones, is an
update of that list alone. -/
private theorem updated_of_ring (ring : List Addr) {sequence : List D} (owns : Owns store nodes)
    (valid : list < store.lists) (represents : Represents store' list ring)
    (data : ring.map store'.data = sequence)
    (fresh : ∀ item ∈ ring, item ∈ nodes list ∨ item ∉ store.allocated)
    (elsewhere : Elsewhere store (nodes list) store') (lists : store'.lists = store.lists)
    (headers : ∀ other ≠ list, store'.header other = store.header other)
    (blocks : store'.allocated.Nodup) (null_free : null ∉ store'.allocated) :
    Updated store list sequence store' := by
  have keeps : ∀ other < store.lists, other ≠ list → Represents store' other (nodes other) ∧
      (nodes other).map store'.data = (nodes other).map store.data :=
    fun other otherValid ne => represents_elsewhere (owns.represents other otherValid) elsewhere
      (owns.apart other otherValid list valid ne) (headers other ne)
  have apart : ∀ other < store.lists, other ≠ list → ring.Disjoint (nodes other) := by
    intro other otherValid ne item member shared
    rcases fresh item member with mine | new
    · exact owns.apart list valid other otherValid (Ne.symm ne) mine shared
    · exact new ((owns.represents other otherValid).held item shared)
  refine ⟨⟨Function.update nodes list ring, ?_, ?_, blocks, null_free⟩, lists, ?_, ?_⟩
  · intro other otherValid
    by_cases same : other = list
    · subst same
      rwa [Function.update_self]
    · rw [Function.update_of_ne same]
      exact (keeps other (lists ▸ otherValid) same).1
  · intro first firstValid second secondValid ne
    rw [lists] at firstValid secondValid
    by_cases firstSame : first = list
    · subst firstSame
      rw [Function.update_self, Function.update_of_ne (Ne.symm ne)]
      exact apart second secondValid (Ne.symm ne)
    · rw [Function.update_of_ne firstSame]
      by_cases secondSame : second = list
      · subst secondSame
        rw [Function.update_self]
        exact List.disjoint_comm.mp (apart first firstValid firstSame)
      · rw [Function.update_of_ne secondSame]
        exact owns.apart first firstValid second secondValid ne
  · rw [contents_represented represents, data]
  · intro other otherValid ne
    rw [contents_represented (keeps other otherValid ne).1, (keeps other otherValid ne).2,
      contents_represented (owns.represents other otherValid)]

/-! ## Insertions -/

/-- Right behind the first element. -/
def insertSecond (rawItem : D) : List D → List D
  | [] => [rawItem]
  | first :: rest => first :: rawItem :: rest

/-- Behind the first element when the test says so there, else behind the
second. -/
def insertBehind (behindFirst : Bool) (rawItem : D) : List D → List D
  | [] => [rawItem]
  | [first] => [first, rawItem]
  | first :: second :: rest =>
    if behindFirst then first :: rawItem :: second :: rest
    else first :: second :: rawItem :: rest

/-- Sorted insertion splits the sequence somewhere behind the first element. -/
theorem insertBehind_split (behindFirst : Bool) (rawItem : D) (sequence : List D) :
    ∃ front back, sequence = front ++ back ∧ (front = [] → back = []) ∧
      insertBehind behindFirst rawItem sequence = front ++ rawItem :: back := by
  rcases sequence with _ | ⟨first, _ | ⟨second, rest⟩⟩
  · exact ⟨[], [], rfl, fun _ => rfl, rfl⟩
  · exact ⟨[first], [], rfl, fun _ => rfl, rfl⟩
  · cases behindFirst with
    | true => exact ⟨[first], second :: rest, rfl, by simp, rfl⟩
    | false => exact ⟨[first, second], rest, rfl, by simp, rfl⟩

/-- One more element somewhere, and the others as they were. -/
def Inserted (rawItem : D) (sequence sequence' : List D) : Prop :=
  ∃ front back, sequence = front ++ back ∧ sequence' = front ++ rawItem :: back

theorem inserted_head (rawItem : D) (sequence : List D) :
    Inserted rawItem sequence (rawItem :: sequence) :=
  ⟨[], sequence, rfl, rfl⟩

theorem inserted_insertBehind (behindFirst : Bool) (rawItem : D) (sequence : List D) :
    Inserted rawItem sequence (insertBehind behindFirst rawItem sequence) := by
  obtain ⟨front, back, shape, -, inserted⟩ := insertBehind_split behindFirst rawItem sequence
  exact ⟨front, back, shape, inserted⟩

theorem inserted_insertSecond (rawItem : D) (sequence : List D) :
    Inserted rawItem sequence (insertSecond rawItem sequence) := by
  cases sequence with
  | nil => exact ⟨[], [], rfl, rfl⟩
  | cons first rest => exact ⟨[first], rest, rfl, rfl⟩

theorem Inserted.mem {rawItem other : D} {sequence sequence' : List D}
    (inserted : Inserted rawItem sequence sequence') (member : other ∈ sequence') :
    other = rawItem ∨ other ∈ sequence := by
  obtain ⟨front, back, rfl, rfl⟩ := inserted
  simp only [List.mem_append, List.mem_cons] at member ⊢
  tauto

section Insertions

variable {rawItem : D} {before after : Addr}

/-- The writes that put a fresh node between two neighbours. -/
structure Linked (store : ListStore D) (before after item : Addr) (rawItem : D)
    (store' : ListStore D) : Prop where
  allocated : store'.allocated = item :: store.allocated
  nextBefore : store'.next before = item
  nextItem : store'.next item = after
  prevItem : store'.prev item = before
  prevAfter : store'.prev after = item
  nexts : ∀ other ∈ store.allocated, other ≠ before → store'.next other = store.next other
  prevs : ∀ other ∈ store.allocated, other ≠ after → store'.prev other = store.prev other
  dataItem : store'.data item = rawItem
  datas : ∀ other ∈ store.allocated, store'.data other = store.data other
  lists : store'.lists = store.lists

/-- In the ring read from behind the insertion point the new node goes last. -/
private theorem ring_of_linked (front back : List Addr)
    (isRing : Ring store.next store.prev (front ++ back)) (distinct : (front ++ back).Nodup)
    (held : ∀ other ∈ front ++ back, other ∈ store.allocated)
    (linked : Linked store before after item rawItem store')
    (isBefore : (back ++ front).getLast? = some before)
    (isAfter : (back ++ front).head? = some after) :
    Ring store'.next store'.prev (front ++ item :: back) := by
  have turned := ring_rotate_append front back isRing
  have turnedHeld : ∀ other ∈ back ++ front, other ∈ store.allocated :=
    fun other member => held other (by simpa [or_comm] using member)
  have turnedDistinct : (back ++ front).Nodup := List.nodup_append_comm.mp distinct
  have inserted : Ring store'.next store'.prev ((back ++ front) ++ [item]) := by
    cases turnedShape : back ++ front with
    | nil => simp [turnedShape] at isAfter
    | cons first rest =>
      rw [turnedShape] at isBefore isAfter turned turnedDistinct turnedHeld
      obtain rfl : first = after := by simpa using isAfter
      exact ring_insert turned turnedDistinct isBefore linked.nextBefore linked.nextItem
        linked.prevItem linked.prevAfter
        (fun other member => linked.nexts other (turnedHeld other member))
        (fun other member => linked.prevs other (turnedHeld other member))
  have again := ring_rotate_append back (front ++ [item]) (by simpa using inserted)
  simpa using again

/-- Linking a fresh node between two neighbours of a ring inserts its data
pointer at that place. -/
private theorem updated_of_insert (front back : List Addr) (owns : Owns store nodes)
    (valid : list < store.lists) (shape : nodes list = front ++ back)
    (linked : Linked store before after item rawItem store')
    (isBefore : (back ++ front).getLast? = some before)
    (isAfter : (back ++ front).head? = some after)
    (fresh : item ∉ store.allocated) (notNull : item ≠ null)
    (length : (store'.header list).length = (store.header list).length + 1)
    (head : ∀ first ∈ (front ++ item :: back).head?, (store'.header list).head = first)
    (headers : ∀ other ≠ list, store'.header other = store.header other) :
    Updated store list (front.map store.data ++ rawItem :: back.map store.data) store' := by
  have represents := owns.represents list valid
  rw [shape] at represents
  have held : ∀ other ∈ front ++ back, other ∈ store.allocated := represents.held
  have notMember : item ∉ front ++ back := fun member => fresh (held item member)
  have isRing := ring_of_linked front back represents.isRing represents.distinct held linked
    isBefore isAfter
  have members : ∀ other ∈ front ++ item :: back, other = item ∨ other ∈ front ++ back := by
    intro other member
    simp only [List.mem_append, List.mem_cons] at member ⊢
    rcases member with inFront | same | inBack
    · exact .inr (.inl inFront)
    · exact .inl same
    · exact .inr (.inr inBack)
  have old : ∀ part : List Addr, (∀ other ∈ part, other ∈ store.allocated) →
      part.map store'.data = part.map store.data :=
    fun part inside => List.map_congr_left (fun other member =>
      linked.datas other (inside other member))
  refine updated_of_ring (front ++ item :: back) owns valid ⟨isRing, ?_, ?_, ?_, head⟩ ?_ ?_
    ⟨?_, ?_, ?_, ?_⟩ linked.lists headers ?_ ?_
  · exact List.nodup_middle.mpr (List.nodup_cons.mpr ⟨notMember, represents.distinct⟩)
  · intro other member
    rw [linked.allocated]
    rcases members other member with rfl | old
    · exact List.mem_cons_self
    · exact List.mem_cons_of_mem _ (held other old)
  · rw [length, represents.length]
    simp only [List.length_append, List.length_cons]
    omega
  · rw [List.map_append, List.map_cons, linked.dataItem,
      old front (fun other member => held other (List.mem_append_left _ member)),
      old back (fun other member => held other (List.mem_append_right _ member))]
  · intro other member
    rcases members other member with rfl | old
    · exact .inr fresh
    · exact .inl (shape ▸ old)
  · exact fun other inside _ => linked.allocated ▸ List.mem_cons_of_mem _ inside
  · intro other inside outside
    rw [shape] at outside
    exact linked.nexts other inside (fun same => outside
      (same ▸ by simpa [or_comm] using List.mem_of_getLast? isBefore))
  · intro other inside outside
    rw [shape] at outside
    exact linked.prevs other inside (fun same => outside
      (same ▸ by simpa [or_comm] using List.mem_of_head? isAfter))
  · exact fun other inside _ => linked.datas other inside
  · rw [linked.allocated]
    exact List.nodup_cons.mpr ⟨fresh, owns.blocks⟩
  · rw [linked.allocated]
    intro member
    rcases List.mem_cons.mp member with same | old
    · exact notNull same.symm
    · exact owns.null_free old

/-- What the insertions read of a list that has a first node. -/
private theorem first_node {first : Addr} {rest : List Addr} (owns : Owns store nodes)
    (valid : list < store.lists) (shape : nodes list = first :: rest) :
    (store.header list).head = first ∧ first ∈ store.allocated ∧
      store.prev first ∈ store.allocated ∧ store.next first ∈ store.allocated ∧
      (first :: rest).getLast? = some (store.prev first) ∧
      (rest ++ [first]).head? = some (store.next first) := by
  have represents := owns.represents list valid
  rw [shape] at represents
  obtain ⟨nextInside, prevInside, _, _⟩ := ring_neighbours represents.isRing List.mem_cons_self
  exact ⟨represents.head first (by simp), represents.held first (by simp),
    represents.held _ prevInside, represents.held _ nextInside,
    ring_prev_first represents.isRing ▸ List.getLast?_eq_some_getLast _,
    ring_next_head represents.isRing⟩

variable [Malloc]

private theorem ne_malloc (inside : item ∈ store.allocated) : item ≠ malloc store.allocated :=
  fun same => malloc_fresh store.allocated (same ▸ inside)

/-- All insertions fill an empty list in the same way: the new node is linked
to itself. -/
private theorem updated_of_first (owns : Owns store nodes) (valid : list < store.lists) :
    Updated store list [rawItem] { store with
      allocated := malloc store.allocated :: store.allocated
      next := Function.update store.next (malloc store.allocated) (malloc store.allocated)
      prev := Function.update store.prev (malloc store.allocated) (malloc store.allocated)
      data := Function.update store.data (malloc store.allocated) rawItem
      header := Function.update store.header list ⟨malloc store.allocated, 1⟩ } := by
  have fresh := malloc_fresh store.allocated
  refine updated_of_ring [malloc store.allocated] owns valid
    ⟨ring_singleton.mpr ⟨by simp, by simp⟩, List.nodup_singleton _, by simp, by simp, by simp⟩
    (by simp) (by simpa using Or.inr fresh) ⟨?_, ?_, ?_, ?_⟩ rfl ?_ ?_ ?_
  · exact fun other inside _ => List.mem_cons_of_mem _ inside
  · exact fun other inside _ => Function.update_of_ne (ne_malloc inside) _ _
  · exact fun other inside _ => Function.update_of_ne (ne_malloc inside) _ _
  · exact fun other inside _ => Function.update_of_ne (ne_malloc inside) _ _
  · exact fun other outside => Function.update_of_ne outside _ _
  · exact List.nodup_cons.mpr ⟨fresh, owns.blocks⟩
  · intro member
    rcases List.mem_cons.mp member with same | old
    · exact malloc_ne_null _ same.symm
    · exact owns.null_free old

variable [Inhabited D]

/-- `gkrtos_list_append` adds at the end. -/
theorem listAppend_spec (wf : WellFormed store) (valid : list < store.lists) (rawItem : D) :
    ∃ store', listAppend list rawItem store = .ok () store' ∧
      Updated store list (contents store list ++ [rawItem]) store' := by
  obtain ⟨nodes, owns⟩ := wf
  have length := (owns.represents list valid).length
  rw [contents_represented (owns.represents list valid)]
  cases shape : nodes list with
  | nil =>
    rw [shape] at length
    exact ⟨_, by simp [listAppend, valid, length], updated_of_first owns valid⟩
  | cons first rest =>
    rw [shape] at length
    obtain ⟨head, firstHeld, tailHeld, _, isLast, _⟩ := first_node owns valid shape
    have firstNe := ne_malloc firstHeld
    have tailNe := ne_malloc tailHeld
    refine ⟨_, by simp [listAppend, valid, length, head, firstHeld, tailHeld, firstNe]; rfl, ?_⟩
    refine updated_of_insert (first :: rest) [] owns valid (by simpa using shape) ?_ isLast rfl
      (malloc_fresh _) (malloc_ne_null _) ?_ ?_ ?_
    · constructor <;> grind [Function.update_apply, ne_malloc]
    · grind [Function.update_apply]
    · grind [Function.update_apply]
    · grind [Function.update_apply]

/-- `gkrtos_list_prepend` adds right behind the first element. -/
theorem listPrepend_spec (wf : WellFormed store) (valid : list < store.lists) (rawItem : D) :
    ∃ store', listPrepend list rawItem store = .ok () store' ∧
      Updated store list (insertSecond rawItem (contents store list)) store' := by
  obtain ⟨nodes, owns⟩ := wf
  have length := (owns.represents list valid).length
  rw [contents_represented (owns.represents list valid)]
  cases shape : nodes list with
  | nil =>
    rw [shape] at length
    exact ⟨_, by simp [listPrepend, valid, length], updated_of_first owns valid⟩
  | cons first rest =>
    rw [shape] at length
    obtain ⟨head, firstHeld, _, nextHeld, _, isNext⟩ := first_node owns valid shape
    have firstNe := ne_malloc firstHeld
    have nextNe := ne_malloc nextHeld
    refine ⟨_, by simp [listPrepend, valid, length, head, firstHeld, nextHeld, firstNe]; rfl, ?_⟩
    refine updated_of_insert [first] rest owns valid shape ?_ List.getLast?_concat isNext
      (malloc_fresh _) (malloc_ne_null _) ?_ ?_ ?_
    · constructor <;> grind [Function.update_apply, ne_malloc]
    · grind [Function.update_apply]
    · grind [Function.update_apply]
    · grind [Function.update_apply]

/-- `gkrtos_list_insert_head` adds in front. -/
theorem listInsertHead_spec (wf : WellFormed store) (valid : list < store.lists) (rawItem : D) :
    ∃ store', listInsertHead list rawItem store = .ok () store' ∧
      Updated store list (rawItem :: contents store list) store' := by
  obtain ⟨nodes, owns⟩ := wf
  have length := (owns.represents list valid).length
  rw [contents_represented (owns.represents list valid)]
  cases shape : nodes list with
  | nil =>
    rw [shape] at length
    exact ⟨_, by simp [listInsertHead, valid, length], updated_of_first owns valid⟩
  | cons first rest =>
    rw [shape] at length
    obtain ⟨head, firstHeld, tailHeld, _, isLast, _⟩ := first_node owns valid shape
    have firstNe := ne_malloc firstHeld
    have tailNe := ne_malloc tailHeld
    refine ⟨_, by simp [listInsertHead, valid, length, head, firstHeld, tailHeld, firstNe, tailNe]; rfl, ?_⟩
    refine updated_of_insert [] (first :: rest) owns valid shape ?_ (by simpa using isLast) rfl
      (malloc_fresh _) (malloc_ne_null _) ?_ ?_ ?_
    · constructor <;> grind [Function.update_apply, ne_malloc]
    · grind [Function.update_apply]
    · grind [Function.update_apply]
    · grind [Function.update_apply]

/-- `gkrtos_list_insert_sorted` adds behind the first or the second element;
it never looks further. -/
theorem listInsertSorted_spec (wf : WellFormed store) (valid : list < store.lists) (rawItem : D)
    (sortFn : D → Addr → Addr → Bool) :
    ∃ store', listInsertSorted list rawItem sortFn store = .ok () store' ∧
      Updated store list (insertBehind (sortFn rawItem (store.header list).head
        (store.next (store.header list).head)) rawItem (contents store list)) store' := by
  have appended := listAppend_spec wf valid rawItem
  obtain ⟨nodes, owns⟩ := wf
  have represents := owns.represents list valid
  have length := represents.length
  rw [contents_represented represents] at appended ⊢
  rcases shape : nodes list with _ | ⟨first, _ | ⟨second, rest⟩⟩
  · simpa [listInsertSorted, valid, length, shape, insertBehind] using appended
  · simpa [listInsertSorted, valid, length, shape, insertBehind] using appended
  · rw [shape] at length represents
    obtain ⟨head, firstHeld, _, _, _, _⟩ := first_node owns valid shape
    have nextFirst : store.next first = second := ring_next_first represents.isRing
    have secondHeld : second ∈ store.allocated := represents.held second (by simp)
    have isNext := ring_next_head (ring_rotate represents.isRing)
    have nextHeld : store.next second ∈ store.allocated :=
      represents.held _ (by simpa [or_comm, or_assoc, or_left_comm] using List.mem_of_head? isNext)
    have firstNe := ne_malloc firstHeld
    have secondNe := ne_malloc secondHeld
    have nextNe := ne_malloc nextHeld
    simp only [List.map_cons, insertBehind, head, nextFirst]
    cases test : sortFn rawItem first second with
    | true =>
      refine ⟨_, by
        simp [listInsertSorted, valid, length, head, firstHeld, secondHeld, nextFirst, test, firstNe]
        rfl, ?_⟩
      refine updated_of_insert [first] (second :: rest) owns valid shape ?_ List.getLast?_concat rfl
        (malloc_fresh _) (malloc_ne_null _) ?_ ?_ ?_
      · constructor <;> grind [Function.update_apply, ne_malloc]
      · grind [Function.update_apply]
      · grind [Function.update_apply]
      · grind [Function.update_apply]
    | false =>
      refine ⟨_, by
        simp [listInsertSorted, valid, length, head, firstHeld, secondHeld, nextFirst, test, nextHeld,
          secondNe]
        rfl, ?_⟩
      have isBefore : (rest ++ [first, second]).getLast? = some second := by simp
      refine updated_of_insert [first, second] rest owns valid shape ?_ isBefore
        (by simpa using isNext)
        (malloc_fresh _) (malloc_ne_null _) ?_ ?_ ?_
      · constructor <;> grind [Function.update_apply, ne_malloc]
      · grind [Function.update_apply]
      · grind [Function.update_apply]
      · grind [Function.update_apply]

end Insertions

/-! ## Removal -/

section Removal

/-- The writes that take a node out from between its neighbours and free it. -/
structure Unlinked (store : ListStore D) (item : Addr) (store' : ListStore D) : Prop where
  allocated : store'.allocated = store.allocated.erase item
  nextPrev : store'.next (store.prev item) = store.next item
  prevNext : store'.prev (store.next item) = store.prev item
  nexts : ∀ other ≠ item, other ≠ store.prev item → store'.next other = store.next other
  prevs : ∀ other ≠ item, other ≠ store.next item → store'.prev other = store.prev other
  datas : store'.data = store.data
  lists : store'.lists = store.lists

private theorem ring_of_unlinked (front back : List Addr)
    (isRing : Ring store.next store.prev (front ++ item :: back))
    (distinct : (front ++ item :: back).Nodup) (unlinked : Unlinked store item store') :
    Ring store'.next store'.prev (front ++ back) := by
  have split := List.nodup_cons.mp (List.nodup_middle.mp distinct)
  have turned := ring_rotate_append front (item :: back) isRing
  have left : Ring store'.next store'.prev (back ++ front) := by
    cases turnedShape : back ++ front with
    | nil => exact ring_nil
    | cons first rest =>
      rw [List.cons_append, turnedShape] at turned
      have inside : ∀ other ∈ first :: rest, other ≠ item := by
        rintro other member rfl
        rw [← turnedShape] at member
        exact split.1 (by simpa [or_comm] using member)
      refine ring_remove turned (turnedShape ▸ List.nodup_append_comm.mp split.2)
        unlinked.nextPrev unlinked.prevNext ?_ ?_
      · exact fun other member => unlinked.nexts other (inside other member)
      · exact fun other member => unlinked.prevs other (inside other member)
  exact ring_rotate_append back front left

/-- What `gkrtos_list_remove` leaves when these are the other nodes of the ring. -/
structure TakenOut (store : ListStore D) (list : ListPtr) (item : Addr) (others : List Addr)
    (store' : ListStore D) : Prop where
  unlinked : Unlinked store item store'
  length : (store'.header list).length = (store.header list).length - 1
  head : ∀ first ∈ others.head?, (store'.header list).head = first
  headers : ∀ other ≠ list, store'.header other = store.header other

/-- The other nodes are a ring again. -/
theorem TakenOut.represents {front back : List Addr}
    (taken : TakenOut store list item (front ++ back) store')
    (represents : Represents store list (front ++ item :: back)) :
    Represents store' list (front ++ back) := by
  have split := List.nodup_cons.mp (List.nodup_middle.mp represents.distinct)
  have isRing := ring_of_unlinked front back represents.isRing represents.distinct taken.unlinked
  refine ⟨isRing, split.2, ?_, ?_, taken.head⟩
  · intro other member
    have different : other ≠ item := fun same => split.1 (same ▸ member)
    have held : other ∈ store.allocated := by
      refine represents.held other ?_
      simp only [List.mem_append, List.mem_cons] at member ⊢
      exact member.imp id .inr
    rw [taken.unlinked.allocated]
    exact (List.mem_erase_of_ne different).mpr held
  · rw [taken.length, represents.length]
    simp only [List.length_append, List.length_cons]
    omega

/-- Taking a node out of a ring erases its data pointer at that place. -/
private theorem updated_of_remove {front back : List Addr} (owns : Owns store nodes)
    (valid : list < store.lists) (shape : nodes list = front ++ item :: back)
    (taken : TakenOut store list item (front ++ back) store') :
    Updated store list (front.map store.data ++ back.map store.data) store' := by
  have represents := owns.represents list valid
  rw [shape] at represents
  have unlinked := taken.unlinked
  obtain ⟨nextInside, prevInside, _, _⟩ :=
    ring_neighbours represents.isRing (List.mem_append_right front List.mem_cons_self)
  refine updated_of_ring (front ++ back) owns valid (taken.represents represents) ?_ ?_
    ⟨?_, ?_, ?_, ?_⟩ unlinked.lists taken.headers ?_ ?_
  · rw [unlinked.datas, List.map_append]
  · intro other member
    refine .inl ?_
    rw [shape]
    simp only [List.mem_append, List.mem_cons] at member ⊢
    exact member.imp id .inr
  · intro other inside outside
    rw [unlinked.allocated]
    refine (List.mem_erase_of_ne ?_).mpr inside
    rintro rfl
    exact outside (by simp [shape])
  · intro other _ outside
    refine unlinked.nexts other ?_ (fun same => outside (shape ▸ same ▸ prevInside))
    rintro rfl
    exact outside (by simp [shape])
  · intro other _ outside
    refine unlinked.prevs other ?_ (fun same => outside (shape ▸ same ▸ nextInside))
    rintro rfl
    exact outside (by simp [shape])
  · exact fun other _ _ => congrFun unlinked.datas other
  · rw [unlinked.allocated]
    exact owns.blocks.erase item
  · rw [unlinked.allocated]
    exact fun member => owns.null_free (List.mem_of_mem_erase member)

/-- Once the neighbours of a node are linked to each other they no longer lead
back to it, so the self-link repairs of `gkrtos_list_remove` find nothing to
repair. -/
private theorem unlinked_neighbours {ring : List Addr} {other : Addr}
    (isRing : Ring store.next store.prev ring) (distinct : ring.Nodup) (member : item ∈ ring)
    (otherMember : other ∈ ring) (different : other ≠ item) :
    Function.update store.next (store.prev item) (store.next item) (store.next item) ≠ item ∧
      Function.update store.prev (store.next item) (store.prev item) (store.prev item) ≠ item := by
  obtain ⟨nextInside, prevInside, _, _⟩ := ring_neighbours isRing member
  obtain ⟨nextNe, prevNe⟩ := ring_neighbours_ne isRing distinct member otherMember different
  have afterNext := (ring_neighbours isRing nextInside).2.2.1
  have beforePrev := (ring_neighbours isRing prevInside).2.2.2
  by_cases two : store.next item = store.prev item
  · simp [two, prevNe]
  · rw [Function.update_of_ne two, Function.update_of_ne (Ne.symm two)]
    constructor
    · intro back
      rw [back] at afterNext
      exact two afterNext.symm
    · intro back
      rw [back] at beforePrev
      exact two beforePrev

/-- `gkrtos_list_remove` of a node that is in the list. -/
theorem listRemove_takesOut {front back : List Addr} (valid : list < store.lists)
    (represents : Represents store list (front ++ item :: back)) :
    ∃ store', listRemove list item store = .ok () store' ∧
      TakenOut store list item (front ++ back) store' := by
  have length := represents.length
  have member : item ∈ front ++ item :: back := List.mem_append_right front List.mem_cons_self
  have fresh := (List.nodup_cons.mp (List.nodup_middle.mp represents.distinct)).1
  obtain ⟨nextInside, prevInside, _, _⟩ := ring_neighbours represents.isRing member
  have itemHeld := represents.held item member
  have nextHeld := represents.held _ nextInside
  have prevHeld := represents.held _ prevInside
  have positive : (store.header list).length ≠ 0 := by simp [length]
  have others : ∀ other ∈ front ++ back, store.next item ≠ item ∧ store.prev item ≠ item ∧
      Function.update store.next (store.prev item) (store.next item) (store.next item) ≠ item ∧
      Function.update store.prev (store.next item) (store.prev item) (store.prev item) ≠ item := by
    intro other inside
    have otherMember : other ∈ front ++ item :: back := by grind
    have different : other ≠ item := fun same => fresh (same ▸ inside)
    have ne := ring_neighbours_ne represents.isRing represents.distinct member otherMember different
    exact ⟨ne.1, ne.2, unlinked_neighbours represents.isRing represents.distinct member
      otherMember different⟩
  rcases front with _ | ⟨first, front⟩
  · have head : (store.header list).head = item := represents.head item rfl
    rcases back with _ | ⟨second, back⟩
    · obtain ⟨nextSelf, prevSelf⟩ := ring_singleton.mp represents.isRing
      refine ⟨_, by simp [listRemove, valid, positive, head, itemHeld, nextSelf, prevSelf]; rfl, ?_⟩
      refine ⟨?_, ?_, by simp, ?_⟩
      · constructor <;> grind [Function.update_apply]
      · grind [Function.update_apply]
      · grind [Function.update_apply]
    · obtain ⟨nextNe, prevNe, nextKept, _⟩ := others second (by simp)
      have nextItem := ring_next_first represents.isRing
      refine ⟨_, by
        simp [listRemove, valid, positive, head, itemHeld, nextHeld, prevHeld, nextNe.symm, nextKept]
        rfl, ?_⟩
      refine ⟨?_, ?_, ?_, ?_⟩
      · constructor <;> grind [Function.update_apply]
      · grind [Function.update_apply]
      · grind [Function.update_apply]
      · grind [Function.update_apply]
  · obtain ⟨nextNe, prevNe, nextKept, prevKept⟩ := others first (by simp)
    have head : (store.header list).head = first := represents.head first rfl
    have headNe : first ≠ item := fun same => fresh (by simp [same])
    refine ⟨_, by
      simp [listRemove, valid, positive, head, headNe, itemHeld, nextHeld, prevHeld, nextNe.symm,
        prevNe.symm, nextKept, prevKept]
      rfl, ?_⟩
    refine ⟨?_, ?_, ?_, ?_⟩
    · constructor <;> grind [Function.update_apply]
    · grind [Function.update_apply]
    · grind [Function.update_apply]
    · grind [Function.update_apply]

/-- `gkrtos_list_remove` of the item at some position of the list. -/
theorem listRemoveItem_spec (wf : WellFormed store) (valid : list < store.lists) {position : Nat}
    (isItem : (items store list)[position]? = some item) :
    ∃ store', listRemove list item store = .ok () store' ∧
      Updated store list ((contents store list).eraseIdx position) store' := by
  obtain ⟨nodes, owns⟩ := wf
  have represents := owns.represents list valid
  rw [items_represented represents] at isItem
  rw [contents_represented represents]
  obtain ⟨inside, at_position⟩ := List.getElem?_eq_some_iff.mp isItem
  have shape : nodes list = (nodes list).take position ++ item :: (nodes list).drop (position + 1) := by
    rw [← at_position, ← List.drop_eq_getElem_cons inside, List.take_append_drop]
  obtain ⟨store', run, taken⟩ := listRemove_takesOut valid (shape ▸ represents)
  have updated := updated_of_remove owns valid shape taken
  refine ⟨store', run, ?_⟩
  rwa [← List.map_append, ← List.eraseIdx_eq_take_drop_succ, ← List.eraseIdx_map] at updated

end Removal

/-! ## Search -/

section Search

variable [DecidableEq D] {data : D}

/-- The loop of `gkrtos_list_get_item_with_data` from one node on: the nodes it
visits, and what it returns. -/
inductive Searches (store : ListStore D) (head : Addr) (data : D) :
    Addr → List Addr → Addr → Prop where
  | back : Searches store head data head [] null
  | found {item : Addr} (inside : item ≠ head) (held : item ∈ store.allocated)
      (carries : store.data item = data) : Searches store head data item [item] item
  | passed {item result : Addr} {visited : List Addr} (inside : item ≠ head)
      (held : item ∈ store.allocated) (other : store.data item ≠ data)
      (rest : Searches store head data (store.next item) visited result) :
      Searches store head data item (item :: visited) result

/-- A walk that ends is over before the fuel is. -/
theorem Searches.run {result : Addr} {visited : List Addr} (valid : list < store.lists)
    (searches : Searches store (store.header list).head data item visited result) {fuel : Nat}
    (enough : visited.length < fuel) : listFindFrom list data fuel item store = .ok result store := by
  induction searches generalizing fuel with
  | back =>
    obtain ⟨fuel, rfl⟩ := Nat.exists_eq_succ_of_ne_zero (Nat.ne_zero_of_lt enough)
    simp [listFindFrom, valid]
  | found inside held carries =>
    obtain ⟨fuel, rfl⟩ := Nat.exists_eq_succ_of_ne_zero (Nat.ne_zero_of_lt enough)
    simp [listFindFrom, valid, inside, held, carries]
  | passed inside held other rest ih =>
    obtain ⟨fuel, rfl⟩ := Nat.exists_eq_succ_of_ne_zero (Nat.ne_zero_of_lt enough)
    have step := ih (Nat.lt_of_succ_lt_succ enough)
    simp [listFindFrom, valid, inside, held, other, step]

/-- The search stops at the first node that carries the data pointer, or else when
it is back at the head. The induction is on the nodes not visited yet. -/
theorem searches_ring (data : D) {first : Addr} (passed todo : List Addr)
    (represents : Represents store list (first :: (passed ++ todo)))
    (position : (todo ++ [first]).head? = some item) :
    ∃ visited, visited <+: todo ∧ Searches store first data item visited
      ((todo.find? fun node => store.data node = data).getD null) := by
  induction todo generalizing passed item with
  | nil =>
    obtain rfl : first = item := by simpa using position
    exact ⟨[], List.prefix_rfl, .back⟩
  | cons node todo ih =>
    obtain rfl : node = item := by simpa using position
    have held := represents.held node (by simp)
    have inside : node ≠ first := by
      rintro rfl
      exact (List.nodup_cons.mp represents.distinct).1 (by simp)
    by_cases carries : store.data node = data
    · refine ⟨[node], List.prefix_append [node] todo, ?_⟩
      rw [List.find?_cons_of_pos (by simpa using carries)]
      exact .found inside held carries
    · have turned := ring_rotate_append (first :: passed) (node :: todo) represents.isRing
      have nextNode := ring_next_head turned
      have represents' : Represents store list (first :: ((passed ++ [node]) ++ todo)) := by
        simpa using represents
      have position' : (todo ++ [first]).head? = some (store.next node) := by
        cases todo with
        | nil => simpa using nextNode
        | cons second todo => simpa using nextNode
      obtain ⟨visited, isPrefix, searches⟩ := ih (passed ++ [node]) represents' position'
      refine ⟨node :: visited, (List.prefix_cons_inj node).mpr isPrefix, ?_⟩
      rw [List.find?_cons_of_neg (by simpa using carries)]
      exact .passed inside held carries searches

/-- `gkrtos_list_get_item_with_data` finds the first node that carries the data
pointer, and returns `NULL` when there is none. -/
theorem listGetItemWithData_run (data : D) {ring : List Addr} (valid : list < store.lists)
    (represents : Represents store list ring) : listGetItemWithData list data store =
      .ok ((ring.find? fun node => store.data node = data).getD null) store := by
  have length := represents.length
  cases ring with
  | nil => simp [listGetItemWithData, valid, length]
  | cons first rest =>
    have positive : (store.header list).length ≠ 0 := by simp [length]
    have head : (store.header list).head = first := represents.head first rfl
    have held := represents.held first List.mem_cons_self
    by_cases carries : store.data first = data
    · rw [List.find?_cons_of_pos (by simpa using carries)]
      simp [listGetItemWithData, valid, positive, head, held, carries]
    · obtain ⟨visited, isPrefix, searches⟩ :=
        searches_ring data [] rest represents (ring_next_head represents.isRing)
      have enough : visited.length < store.allocated.length + 1 := by
        have inside : (first :: rest).length ≤ store.allocated.length :=
          (List.Nodup.subperm represents.distinct represents.held).length_le
        have least := isPrefix.length_le
        simp only [List.length_cons] at inside
        omega
      have run := Searches.run valid (head.symm ▸ searches) enough
      rw [head] at run
      rw [List.find?_cons_of_neg (by simpa using carries)]
      simp [listGetItemWithData, valid, positive, head, held, carries, run]

/-- The same by the place of the node in the ring. -/
theorem listGetItemWithData_spec (data : D) {ring : List Addr} (valid : list < store.lists)
    (represents : Represents store list ring) :
    (data ∉ ring.map store.data ∧ listGetItemWithData list data store = .ok null store) ∨
      ∃ front node back, ring = front ++ node :: back ∧ store.data node = data ∧
        data ∉ front.map store.data ∧ listGetItemWithData list data store = .ok node store := by
  have run := listGetItemWithData_run data valid represents
  cases found : ring.find? fun node => store.data node = data with
  | none =>
    rw [found] at run
    exact .inl ⟨by simpa using found, run⟩
  | some node =>
    rw [found] at run
    obtain ⟨carries, front, back, shape, absent⟩ := List.find?_eq_some_iff_append.mp found
    exact .inr ⟨front, node, back, shape, by simpa using carries, by simpa using absent, run⟩

/-- The item that is found for a data pointer in the list, and what removing it
leaves. -/
theorem listGetItemWithData_found {data : D} (wf : WellFormed store) (valid : list < store.lists)
    (member : data ∈ contents store list) :
    ∃ item position, listGetItemWithData list data store = .ok item store ∧ item ≠ null ∧
      (items store list)[position]? = some item ∧
      (contents store list).eraseIdx position = (contents store list).erase data := by
  obtain ⟨nodes, owns⟩ := wf
  have represents := owns.represents list valid
  rcases listGetItemWithData_spec data valid represents with
    ⟨absent, -⟩ | ⟨front, node, back, shape, found, absent, run⟩
  · exact absurd member (contents_represented represents ▸ absent)
  · have held := represents.held node (by simp [shape])
    have sequence : contents store list = front.map store.data ++ data :: back.map store.data := by
      rw [contents_represented represents, shape, List.map_append, List.map_cons, found]
    refine ⟨node, front.length, run, fun same => owns.null_free (same ▸ held), ?_, ?_⟩
    · rw [items_represented represents, shape, List.getElem?_append_right (Nat.le_refl _)]
      simp
    · rw [sequence, List.erase_append_right _ absent, List.erase_cons_head,
        List.eraseIdx_append_of_length_le (by simp)]
      simp

/-- The kernel removes the item it has just looked up by its data pointer. -/
def listRemoveData (list : ListPtr) (data : D) : ListM D Unit := do
  listRemove list (← listGetItemWithData list data)

/-- A data pointer in the list is erased at its first occurrence; from an empty
list nothing is removed; and a missing item is dereferenced. -/
theorem listRemoveData_spec (data : D) (wf : WellFormed store) (valid : list < store.lists) :
    if data ∈ contents store list then
      ∃ store', listRemoveData list data store = .ok () store' ∧
        Updated store list ((contents store list).erase data) store'
    else if contents store list = [] then listRemoveData list data store = .ok () store
    else listRemoveData list data store = .error .invalidPointer store := by
  by_cases member : data ∈ contents store list
  · obtain ⟨item, position, found, -, isItem, erased⟩ := listGetItemWithData_found wf valid member
    obtain ⟨store', removed, updated⟩ := listRemoveItem_spec wf valid isItem
    rw [if_pos member, ← erased]
    exact ⟨store', by simp [listRemoveData, found, removed], updated⟩
  obtain ⟨nodes, owns⟩ := wf
  have represents := owns.represents list valid
  rcases listGetItemWithData_spec data valid represents with
    ⟨absent, run⟩ | ⟨front, node, back, shape, found, absent, run⟩
  · rw [if_neg member]
    have length := represents.length
    rw [contents_represented represents]
    cases shape : nodes list with
    | nil =>
      rw [shape] at length
      simp [listRemoveData, run, listRemove, valid, length]
    | cons first rest =>
      rw [shape] at length
      obtain ⟨head, held, _⟩ := first_node owns valid shape
      have notNull : first ≠ null := fun same => owns.null_free (same ▸ held)
      have positive : (store.header list).length ≠ 0 := by simp [length]
      simp [listRemoveData, run, listRemove, valid, positive, head, notNull, loadPrev, loadNext,
        derefItem, owns.null_free]
  · refine absurd ?_ member
    rw [contents_represented represents, shape, ← found]
    simp

end Search

/-! ## Reading and rotating -/

theorem listIsEmpty_spec (wf : WellFormed store) (valid : list < store.lists) :
    listIsEmpty list store = .ok (decide (contents store list = [])) store := by
  obtain ⟨nodes, owns⟩ := wf
  have represents := owns.represents list valid
  have length := represents.length
  rw [contents_represented represents]
  cases shape : nodes list with
  | nil => simp [listIsEmpty, valid, length, shape]
  | cons first rest => simp [listIsEmpty, valid, length, shape]

/-- `gkrtos_list_get_head` reads the first element of a list that has one. -/
theorem listGetHead_spec (wf : WellFormed store) (valid : list < store.lists) {first : D} {rest : List D}
    (sequence : contents store list = first :: rest) :
    listGetHead list store = .ok first store := by
  obtain ⟨nodes, owns⟩ := wf
  have represents := owns.represents list valid
  rw [contents_represented represents] at sequence
  cases shape : nodes list with
  | nil => simp [shape] at sequence
  | cons node others =>
    obtain ⟨head, held, _⟩ := first_node owns valid shape
    obtain ⟨data, _⟩ : store.data node = first ∧ others.map store.data = rest := by
      simpa [shape] using sequence
    simp [listGetHead, valid, head, held, data]

/-- `gkrtos_list_rotate` leaves an empty list alone. -/
theorem listRotate_empty (wf : WellFormed store) (valid : list < store.lists)
    (empty : contents store list = []) : listRotate list store = .ok none store := by
  obtain ⟨nodes, owns⟩ := wf
  have represents := owns.represents list valid
  have length := represents.length
  rw [contents_represented represents, List.map_eq_nil_iff] at empty
  simp [listRotate, valid, length, empty]

/-- `gkrtos_list_rotate` moves the first element to the end and reads the new
first one. -/
theorem listRotate_spec (wf : WellFormed store) (valid : list < store.lists) {first : D} {rest : List D}
    (sequence : contents store list = first :: rest) :
    ∃ store', listRotate list store = .ok (rest ++ [first]).head? store' ∧
      Updated store list (rest ++ [first]) store' := by
  obtain ⟨nodes, owns⟩ := wf
  have represents := owns.represents list valid
  rw [contents_represented represents] at sequence
  cases shape : nodes list with
  | nil => simp [shape] at sequence
  | cons node others =>
    rw [shape] at represents
    obtain ⟨head, held, _, nextHeld, _, isNext⟩ := first_node owns valid shape
    obtain ⟨rfl, rfl⟩ : store.data node = first ∧ others.map store.data = rest := by
      simpa [shape] using sequence
    have length := represents.length
    have positive : 0 < (store.header list).length := by simp [length]
    have newHead : (others.map store.data ++ [store.data node]).head? =
        some (store.data (store.next node)) := by
      have mapped := congrArg (Option.map store.data) isNext
      simpa using mapped
    refine ⟨_, by rw [newHead]; simp [listRotate, valid, positive, head, held, nextHeld]; rfl, ?_⟩
    refine updated_of_ring (others ++ [node]) owns valid ⟨ring_rotate represents.isRing, ?_, ?_, ?_, ?_⟩
      (by simp) ?_ ⟨?_, ?_, ?_, ?_⟩ rfl ?_ owns.blocks owns.null_free
    · exact List.nodup_append_comm.mp represents.distinct
    · exact fun other member => represents.held other (by simpa [or_comm] using member)
    · simp [length]
    · intro first member
      rw [isNext] at member
      simpa using member
    · exact fun other member => .inl (shape ▸ by simpa [or_comm] using member)
    · exact fun other inside _ => inside
    · exact fun other _ _ => rfl
    · exact fun other _ _ => rfl
    · exact fun other _ _ => rfl
    · exact fun other outside => Function.update_of_ne outside _ _

/-- `gkrtos_list_new` adds an empty list. -/
theorem listNew_spec (wf : WellFormed store) :
    ∃ store', listNew store = .ok store.lists store' ∧ WellFormed store' ∧
      store'.lists = store.lists + 1 ∧ contents store' store.lists = [] ∧
      ∀ other < store.lists, contents store' other = contents store other := by
  obtain ⟨nodes, owns⟩ := wf
  refine ⟨_, rfl, ?_⟩
  have keeps : ∀ other < store.lists, Represents { store with
      lists := store.lists + 1, header := Function.update store.header store.lists ⟨null, 0⟩ }
      other (nodes other) := by
    intro other valid
    have represents := owns.represents other valid
    have ne : other ≠ store.lists := Nat.ne_of_lt valid
    exact ⟨represents.isRing, represents.distinct, represents.held,
      by simpa [ne] using represents.length, by simpa [ne] using represents.head⟩
  have empty : Represents { store with
      lists := store.lists + 1, header := Function.update store.header store.lists ⟨null, 0⟩ }
      store.lists [] := ⟨ring_nil, .nil, by simp, by simp, by simp⟩
  refine ⟨⟨Function.update nodes store.lists [], ?_, ?_, owns.blocks, owns.null_free⟩, rfl, ?_, ?_⟩
  · intro other valid
    by_cases same : other = store.lists
    · subst same
      rw [Function.update_self]
      exact empty
    · rw [Function.update_of_ne same]
      exact keeps other (by simp only at valid; omega)
  · intro first firstValid second secondValid ne
    by_cases firstSame : first = store.lists
    · simp [firstSame]
    · by_cases secondSame : second = store.lists
      · simp [secondSame]
      · rw [Function.update_of_ne firstSame, Function.update_of_ne secondSame]
        exact owns.apart first (by simp only at firstValid; omega) second
          (by simp only at secondValid; omega) ne
  · exact contents_represented empty
  · intro other valid
    rw [contents_represented (keeps other valid), contents_represented (owns.represents other valid)]

end Gkrtos.ListRefinement
