import Mathlib.Logic.Function.Basic
import Gkrtos.Platform

/-! The circular doubly linked list of `structures/list.c`, statement by
statement over an explicit heap. The fields of the list nodes are kept as one
array per field, indexed by the node's address, and every access checks that
the node is allocated. The two list structs of the kernel are never freed, so a
list is named by its position among the lists created so far. -/
namespace Gkrtos

open PicoSdk Malloc

/-- `struct gkrtos_list` -/
structure ListHeader where
  head : Addr
  length : Nat
  deriving DecidableEq, Repr

/-- Which `struct gkrtos_list` a pointer names. -/
abbrev ListPtr := Nat

/-- The C heap as far as lists use it: the nodes allocated now with the three
fields of `struct gkrtos_list_item`, and the list structs created so far. `D`
is the type of the data pointers. -/
structure ListStore (D : Type) where
  allocated : List Addr
  next : Addr → Addr
  prev : Addr → Addr
  data : Addr → D
  lists : Nat
  header : ListPtr → ListHeader

/-- A call into `list.c`. -/
abbrev ListM (D : Type) := EStateM ListFault (ListStore D)

variable {D : Type}

/-- The heap before any list exists. The initial contents of memory are
immaterial. -/
def ListStore.initial [Inhabited D] : ListStore D :=
  ⟨[], fun _ => null, fun _ => null, fun _ => default, 0, fun _ => ⟨null, 0⟩⟩

/-! ## Memory accesses -/

/-- The dereference of a node pointer. -/
def derefItem (item : Addr) : ListM D Unit := do
  if item ∈ (← get).allocated then pure () else throw .invalidPointer

/-- The dereference of a list pointer. -/
def derefList (list : ListPtr) : ListM D Unit := do
  if list < (← get).lists then pure () else throw .invalidPointer

def loadNext (item : Addr) : ListM D Addr := do
  derefItem item
  return (← get).next item

def loadPrev (item : Addr) : ListM D Addr := do
  derefItem item
  return (← get).prev item

def loadData (item : Addr) : ListM D D := do
  derefItem item
  return (← get).data item

def storeNext (item value : Addr) : ListM D Unit := do
  derefItem item
  modify fun store => { store with next := Function.update store.next item value }

def storePrev (item value : Addr) : ListM D Unit := do
  derefItem item
  modify fun store => { store with prev := Function.update store.prev item value }

def storeData (item : Addr) (value : D) : ListM D Unit := do
  derefItem item
  modify fun store => { store with data := Function.update store.data item value }

def loadHead (list : ListPtr) : ListM D Addr := do
  derefList list
  return ((← get).header list).head

def loadLength (list : ListPtr) : ListM D Nat := do
  derefList list
  return ((← get).header list).length

def storeHead (list : ListPtr) (value : Addr) : ListM D Unit := do
  derefList list
  modify fun store => { store with
    header := Function.update store.header list { store.header list with head := value } }

def storeLength (list : ListPtr) (value : Nat) : ListM D Unit := do
  derefList list
  modify fun store => { store with
    header := Function.update store.header list { store.header list with length := value } }

/-- `malloc(sizeof(struct gkrtos_list_item))` -/
def mallocItem [Malloc] : ListM D Addr := do
  let item := malloc (← get).allocated
  modify fun store => { store with allocated := item :: store.allocated }
  return item

/-- `free` of a node. -/
def freeItem (item : Addr) : ListM D Unit := do
  derefItem item
  modify fun store => { store with allocated := store.allocated.erase item }

/-! ## `list.c` -/

/-- `gkrtos_list_item_new`. The default of `D` stands for `NULL` until the
caller stores its data pointer. -/
def listItemNew [Malloc] [Inhabited D] : ListM D Addr := do
  let item ← mallocItem
  storeNext item null
  storePrev item null
  storeData item default
  return item

/-- `gkrtos_list_append` -/
def listAppend [Malloc] [Inhabited D] (list : ListPtr) (rawItem : D) : ListM D Unit := do
  let item ← listItemNew
  storeData item rawItem
  if (← loadLength list) = 0 then
    -- First item in list
    storeHead list item
    storeNext item item
    storePrev item item
    storeLength list 1
  else
    let tail ← loadPrev (← loadHead list)
    storeNext tail item
    storePrev item tail
    storeNext item (← loadHead list)
    storePrev (← loadHead list) item
    storeLength list ((← loadLength list) + 1)

/-- `gkrtos_list_insert_sorted`. The candidate position is behind the head or
behind the second item. The test is given these two list items, not the data
they carry. -/
def listInsertSorted [Malloc] [Inhabited D] (list : ListPtr) (rawItem : D)
    (sortFn : D → Addr → Addr → Bool) : ListM D Unit := do
  if (← loadLength list) ≤ 1 then
    listAppend list rawItem
  else
    let head ← loadHead list
    let previous ←
      if sortFn rawItem head (← loadNext head) then pure head
      else loadNext head
    let newItem ← listItemNew
    storeData newItem rawItem
    let nextItem ← loadNext previous
    storeNext previous newItem
    storePrev newItem previous
    storeNext newItem nextItem
    storePrev nextItem newItem
    storeLength list ((← loadLength list) + 1)

/-- `gkrtos_list_prepend`: right behind the head. -/
def listPrepend [Malloc] [Inhabited D] (list : ListPtr) (rawItem : D) : ListM D Unit := do
  let item ← listItemNew
  storeData item rawItem
  if (← loadLength list) = 0 then
    storeHead list item
    storeNext item item
    storePrev item item
    storeLength list 1
  else
    storeNext item (← loadNext (← loadHead list))
    storePrev item (← loadHead list)
    storePrev (← loadNext item) item
    storeNext (← loadHead list) item
    storeLength list ((← loadLength list) + 1)

/-- `gkrtos_list_insert_head` -/
def listInsertHead [Malloc] [Inhabited D] (list : ListPtr) (rawItem : D) : ListM D Unit := do
  let item ← listItemNew
  storeData item rawItem
  if (← loadLength list) = 0 then
    storeHead list item
    storeNext item item
    storePrev item item
    storeLength list 1
  else
    storeNext item (← loadHead list)
    storePrev item (← loadPrev (← loadHead list))
    storeNext (← loadPrev (← loadHead list)) item
    storePrev (← loadHead list) item
    storeHead list item
    storeLength list ((← loadLength list) + 1)

/-- `gkrtos_list_remove` -/
def listRemove (list : ListPtr) (item : Addr) : ListM D Unit := do
  if (← loadLength list) = 0 then
    return
  if (← loadHead list) = item then
    storeHead list (← loadNext item)
    storePrev (← loadHead list) (← loadPrev item)
    storeNext (← loadPrev item) (← loadNext item)
    if (← loadNext (← loadHead list)) = item then
      storeNext (← loadHead list) (← loadHead list)
  else
    -- Standard remove
    storeNext (← loadPrev item) (← loadNext item)
    storePrev (← loadNext item) (← loadPrev item)
    if (← loadNext (← loadNext item)) = item then
      storeNext (← loadNext item) (← loadNext item)
    if (← loadPrev (← loadPrev item)) = item then
      storePrev (← loadPrev item) (← loadPrev item)
  storeLength list ((← loadLength list) - 1)
  freeItem item

/-- `gkrtos_list_new` -/
def listNew : ListM D ListPtr := do
  let list := (← get).lists
  modify fun store => { store with
    lists := list + 1, header := Function.update store.header list ⟨null, 0⟩ }
  return list

/-- `gkrtos_list_get_head` -/
def listGetHead (list : ListPtr) : ListM D D := do
  loadData (← loadHead list)

/-- The loop of `gkrtos_list_get_item_with_data`. It writes nothing, so a walk
longer than the number of allocated nodes has met one of them twice and goes on
forever. -/
def listFindFrom [DecidableEq D] (list : ListPtr) (data : D) : Nat → Addr → ListM D Addr
  | 0, _ => throw .endlessWalk
  | fuel + 1, item => do
    if item = (← loadHead list) then
      return null
    if (← loadData item) = data then
      return item
    listFindFrom list data fuel (← loadNext item)

/-- `gkrtos_list_get_item_with_data` -/
def listGetItemWithData [DecidableEq D] (list : ListPtr) (data : D) : ListM D Addr := do
  if (← loadLength list) = 0 then
    return null
  if (← loadData (← loadHead list)) = data then
    return ← loadHead list
  listFindFrom list data ((← get).allocated.length + 1) (← loadNext (← loadHead list))

/-- `gkrtos_list_rotate` -/
def listRotate (list : ListPtr) : ListM D (Option D) := do
  if (← loadLength list) > 0 then
    storeHead list (← loadNext (← loadHead list))
    return some (← loadData (← loadHead list))
  return none

/-- `gkrtos_list_is_empty` -/
def listIsEmpty (list : ListPtr) : ListM D Bool := do
  return (← loadLength list) = 0

end Gkrtos
