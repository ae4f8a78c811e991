import Gkrtos.ListRefinement

/-! Looking up a data pointer in one list, whatever the rest of the heap holds. The
loop of `gkrtos_list_get_item_with_data` ends only at the node it looks for or back
at the head; in a ring it meets every node at most once on the way. What it returns
is then an item that `gkrtos_list_remove` can take out of the same list. -/
namespace Gkrtos.ListRefinement

variable {D : Type} {store store' : ListStore D} {list : ListPtr} {item result : Addr}

/-- `gkrtos_list_get_item_with_data`: the nodes it visits, and what it returns. -/
inductive LooksUp (store : ListStore D) (list : ListPtr) (data : D) : List Addr → Addr → Prop where
  | empty (length : (store.header list).length = 0) : LooksUp store list data [] null
  | atHead (length : (store.header list).length ≠ 0)
      (held : (store.header list).head ∈ store.allocated)
      (carries : store.data (store.header list).head = data) :
      LooksUp store list data [(store.header list).head] (store.header list).head
  | behindHead {visited : List Addr} {result : Addr} (length : (store.header list).length ≠ 0)
      (held : (store.header list).head ∈ store.allocated)
      (other : store.data (store.header list).head ≠ data)
      (searches : Searches store (store.header list).head data
        (store.next (store.header list).head) visited result) :
      LooksUp store list data ((store.header list).head :: visited) result

variable [DecidableEq D] {data : D}

/-- The loop returns, with some fuel, exactly when its walk ends. -/
theorem listFindFrom_returns_iff (valid : list < store.lists) :
    (∃ fuel, listFindFrom list data fuel item store = .ok result store') ↔
      store' = store ∧ ∃ visited, Searches store (store.header list).head data item visited result := by
  constructor
  · rintro ⟨fuel, run⟩
    induction fuel generalizing item with
    | zero => cases run
    | succ fuel ih =>
      by_cases back : item = (store.header list).head
      · simp only [listFindFrom, Stateful.bind_apply, loadHead_run valid, if_pos back] at run
        cases run
        exact ⟨rfl, [], back ▸ .back⟩
      by_cases held : item ∈ store.allocated
      · by_cases carries : store.data item = data
        · simp [listFindFrom, valid, back, held, carries] at run
          obtain ⟨rfl, rfl⟩ := run
          exact ⟨rfl, [item], .found back held carries⟩
        · simp [listFindFrom, valid, back, held, carries] at run
          obtain ⟨rfl, visited, searches⟩ := ih run
          exact ⟨rfl, item :: visited, .passed back held carries searches⟩
      · simp [listFindFrom, valid, back, loadData, derefItem, held] at run
  · rintro ⟨rfl, visited, searches⟩
    exact ⟨visited.length + 1, searches.run valid (Nat.lt_succ_self _)⟩

/-- In a ring the walk ends before it meets a node again. -/
theorem looksUp_ring (data : D) {ring : List Addr} (represents : Represents store list ring) :
    ∃ visited, visited <+: ring ∧
      LooksUp store list data visited ((ring.find? fun node => store.data node = data).getD null) := by
  have length := represents.length
  cases ring with
  | nil => exact ⟨[], List.prefix_rfl, .empty length⟩
  | cons first rest =>
    have positive : (store.header list).length ≠ 0 := by simp [length]
    have head : (store.header list).head = first := represents.head first rfl
    have held := represents.held first List.mem_cons_self
    by_cases carries : store.data first = data
    · refine ⟨[first], List.prefix_append [first] rest, ?_⟩
      rw [List.find?_cons_of_pos (by simpa using carries)]
      subst head
      exact .atHead positive held carries
    · obtain ⟨visited, isPrefix, searches⟩ :=
        searches_ring data [] rest represents (CircularList.ring_next_head represents.isRing)
      refine ⟨first :: visited, (List.prefix_cons_inj first).mpr isPrefix, ?_⟩
      rw [List.find?_cons_of_neg (by simpa using carries)]
      subst head
      exact .behindHead positive held carries searches

/-- The first node of the ring that carries the data pointer, and the list without
it. -/
structure FindsFirst (store : ListStore D) (list : ListPtr) (ring : List Addr) (data : D)
    (result : Addr) : Prop where
  first : ∃ front back, ring = front ++ result :: back ∧ store.data result = data ∧
    ∀ node ∈ front, store.data node ≠ data
  removed : ∃ store', listRemove list result store = .ok () store' ∧
    Represents store' list (ring.erase result) ∧ null ∉ ring.erase result ∧
    contents store' list = (contents store list).erase data

theorem findsFirst {front back : List Addr} (valid : list < store.lists)
    (represents : Represents store list (front ++ item :: back))
    (notNull : null ∉ front ++ item :: back) (absent : ∀ node ∈ front, store.data node ≠ data)
    (carries : store.data item = data) :
    FindsFirst store list (front ++ item :: back) data item := by
  have fresh : item ∉ front := by
    intro member
    have split := List.nodup_cons.mp (List.nodup_middle.mp represents.distinct)
    exact split.1 (List.mem_append_left back member)
  have erased : (front ++ item :: back).erase item = front ++ back := by
    rw [List.erase_append_right _ fresh, List.erase_cons_head]
  obtain ⟨store', run, taken⟩ := listRemove_takesOut valid represents
  have left := taken.represents represents
  refine ⟨⟨front, back, rfl, carries, absent⟩, store', run, erased ▸ left, ?_, ?_⟩
  · exact fun member => notNull (List.mem_of_mem_erase member)
  · have absentData : data ∉ front.map store.data := by
      simpa using absent
    rw [contents_represented left, contents_represented represents, taken.unlinked.datas,
      List.map_append, List.map_append, List.map_cons, carries, List.erase_append_right _ absentData,
      List.erase_cons_head]

/-- The search returns with no node visited twice; it returns `NULL` when no node
carries the data pointer, and else the first one that does. -/
theorem search_exact {ring : List Addr} (valid : list < store.lists)
    (represents : Represents store list ring) (notNull : null ∉ ring) (data : D) :
    ∃ visited result, LooksUp store list data visited result ∧ visited <+: ring ∧ visited.Nodup ∧
      listGetItemWithData list data store = .ok result store ∧
      (result = null ↔ ∀ node ∈ ring, store.data node ≠ data) ∧
      (data ∈ contents store list → FindsFirst store list ring data result) := by
  obtain ⟨visited, isPrefix, looksUp⟩ := looksUp_ring data represents
  have run := listGetItemWithData_run data valid represents
  refine ⟨visited, _, looksUp, isPrefix, isPrefix.sublist.nodup represents.distinct, run, ?_⟩
  rw [contents_represented represents]
  cases found : ring.find? fun node => store.data node = data with
  | none =>
    have absent : ∀ node ∈ ring, store.data node ≠ data := by
      simpa using found
    refine ⟨⟨fun _ => absent, fun _ => rfl⟩, fun member => ?_⟩
    obtain ⟨node, inside, carries⟩ := List.mem_map.mp member
    exact absurd carries (absent node inside)
  | some node =>
    obtain ⟨carries, front, back, rfl, absent⟩ := List.find?_eq_some_iff_append.mp found
    have carries : store.data node = data := by
      simpa using carries
    have member : node ∈ front ++ node :: back := List.mem_append_right front List.mem_cons_self
    refine ⟨⟨?_, fun none => absurd carries (none node member)⟩, fun _ => ?_⟩
    · rintro rfl
      exact absurd member notNull
    · exact findsFirst valid represents notNull (by simpa using absent) carries

section Example

/-- Two nodes; the second one carries the data pointer 8. -/
private def twoNodes : ListStore Nat where
  allocated := [40, 80]
  next := fun node => if node = 40 then 80 else 40
  prev := fun node => if node = 40 then 80 else 40
  data := fun node => if node = 40 then 7 else 8
  lists := 1
  header := fun _ => ⟨40, 2⟩

private theorem twoNodes_represents : Represents twoNodes 0 [40, 80] := by
  refine ⟨⟨?_, ?_⟩, by decide, by decide, rfl, ?_⟩
  · exact .cons_cons ⟨rfl, rfl⟩ (.singleton 80)
  · rintro last ⟨⟩ first ⟨⟩
    exact ⟨rfl, rfl⟩
  · rintro first ⟨⟩
    rfl

theorem search_exact_example :
    ∃ visited result, LooksUp twoNodes 0 8 visited result ∧ visited <+: [40, 80] ∧ visited.Nodup ∧
      listGetItemWithData 0 8 twoNodes = .ok result twoNodes ∧
      (result = null ↔ ∀ node ∈ [40, 80], twoNodes.data node ≠ 8) ∧
      (8 ∈ contents twoNodes 0 → FindsFirst twoNodes 0 [40, 80] 8 result) :=
  search_exact (by decide) twoNodes_represents (by decide) 8

end Example

end Gkrtos.ListRefinement
