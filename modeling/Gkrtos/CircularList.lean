import Mathlib.Data.List.Chain
import Mathlib.Data.List.Nodup

/-! Circular doubly linked lists over any type of node names. A ring is the
finite sequence of nodes met by following the forward links from some node
until they come back to it, with the backward links inverting them. Nothing
here fixes what a node stores or how the links are kept in memory: the forward
and backward links are two functions, and a write is described by the links
that hold after it. Every insertion and removal is reduced to the seam between
the last node and the first one; a position elsewhere in the ring is reached by
rotating. -/
namespace Gkrtos.CircularList

variable {α : Type} {next prev next' prev' : α → α} {nodes rest : List α} {first last node : α}

/-- The two links between neighbours agree. -/
def Links (next prev : α → α) (before after : α) : Prop :=
  next before = after ∧ prev after = before

/-- The nodes are chained in this order and the last one is linked back to the
first one. The empty sequence is a ring whatever the links say. -/
def Ring (next prev : α → α) (nodes : List α) : Prop :=
  nodes.IsChain (Links next prev) ∧
    ∀ last ∈ nodes.getLast?, ∀ first ∈ nodes.head?, Links next prev last first

/-- The nodes met in `count` steps along the forward links. -/
def follow (next : α → α) : Nat → α → List α
  | 0, _ => []
  | count + 1, node => node :: follow next count (next node)

theorem follow_length (next : α → α) (count : Nat) (node : α) :
    (follow next count node).length = count := by
  induction count generalizing node with
  | zero => rfl
  | succ count ih => rw [follow, List.length_cons, ih]

theorem ring_nil : Ring next prev [] := ⟨.nil, by simp⟩

theorem ring_singleton : Ring next prev [node] ↔ next node = node ∧ prev node = node := by
  simp [Ring, Links]

/-- A chain only reads the forward links of all but its last node and the
backward links of all but its first one. -/
private theorem chain_unchanged (chain : nodes.IsChain (Links next prev))
    (nexts : ∀ node ∈ nodes.dropLast, next' node = next node)
    (prevs : ∀ node ∈ nodes.tail, prev' node = prev node) :
    nodes.IsChain (Links next' prev') := by
  induction nodes with
  | nil => exact .nil
  | cons first rest ih =>
    cases rest with
    | nil => exact .singleton _
    | cons second rest =>
      obtain ⟨link, chain⟩ := List.isChain_cons_cons.mp chain
      refine List.isChain_cons_cons.mpr ⟨⟨?_, ?_⟩, ih chain ?_ ?_⟩
      · rw [nexts first (by simp)]
        exact link.1
      · rw [prevs second (by simp)]
        exact link.2
      · exact fun node member => nexts node (List.mem_cons_of_mem _ member)
      · exact fun node member => prevs node (List.mem_of_mem_tail member)

/-- Writes to other nodes leave a ring alone. -/
theorem ring_unchanged (ring : Ring next prev nodes)
    (nexts : ∀ node ∈ nodes, next' node = next node)
    (prevs : ∀ node ∈ nodes, prev' node = prev node) : Ring next' prev' nodes := by
  refine ⟨chain_unchanged ring.1 (fun node member => nexts node (List.dropLast_subset _ member))
    (fun node member => prevs node (List.mem_of_mem_tail member)), ?_⟩
  intro last lastMember first firstMember
  have link := ring.2 last lastMember first firstMember
  exact ⟨(nexts last (List.mem_of_getLast? lastMember)).trans link.1,
    (prevs first (List.mem_of_head? firstMember)).trans link.2⟩

/-- A ring may be read from its second node on. -/
theorem ring_rotate (ring : Ring next prev (first :: rest)) : Ring next prev (rest ++ [first]) := by
  cases rest with
  | nil => exact ring
  | cons second rest =>
    obtain ⟨chain, closing⟩ := ring
    obtain ⟨link, chain⟩ := List.isChain_cons_cons.mp chain
    have wrap : ∀ last ∈ (second :: rest).getLast?, Links next prev last first := by
      intro last member
      exact closing last (by rwa [List.getLast?_cons_cons]) first (by simp)
    refine ⟨List.isChain_append.mpr ⟨chain, .singleton _, ?_⟩, ?_⟩
    · intro last member head headMember
      obtain rfl : first = head := by simpa using headMember
      exact wrap last member
    · intro last lastMember head headMember
      obtain rfl : first = last := by
        simpa only [List.getLast?_concat, Option.mem_def, Option.some.injEq] using lastMember
      obtain rfl : second = head := by simpa using headMember
      exact link

/-- Rotating by any number of nodes keeps the ring. -/
theorem ring_rotate_append (front back : List α) (ring : Ring next prev (front ++ back)) :
    Ring next prev (back ++ front) := by
  induction front generalizing back with
  | nil => simpa using ring
  | cons first front ih =>
    have turned := ring_rotate (by simpa using ring : Ring next prev (first :: (front ++ back)))
    have moved := ih (back ++ [first]) (by simpa using turned)
    simpa using moved

theorem ring_next_first {second : α} (ring : Ring next prev (first :: second :: rest)) :
    next first = second :=
  (List.isChain_cons_cons.mp ring.1).1.1

theorem ring_prev_first (ring : Ring next prev (first :: rest)) :
    prev first = (first :: rest).getLast (by simp) :=
  (ring.2 _ (List.getLast?_eq_some_getLast (by simp)) first (by simp)).2

/-- The node after the first one is the second one, or the first one again in
a ring of one node. -/
theorem ring_next_head (ring : Ring next prev (first :: rest)) :
    (rest ++ [first]).head? = some (next first) := by
  cases rest with
  | nil =>
    have self := (ring_singleton.mp ring).1
    simp [self]
  | cons second rest => simp [ring_next_first ring]

/-- Following the links once around reads off exactly the ring. -/
theorem follow_ring (ring : Ring next prev (first :: rest)) :
    follow next (first :: rest).length first = first :: rest := by
  have chain := ring.1
  clear ring
  induction rest generalizing first with
  | nil => rfl
  | cons second rest ih =>
    obtain ⟨link, chain⟩ := List.isChain_cons_cons.mp chain
    simp only [List.length_cons, follow, link.1] at ih ⊢
    rw [ih chain]

/-- In a ring the links stay inside and invert each other. -/
theorem ring_neighbours (ring : Ring next prev nodes) (member : node ∈ nodes) :
    next node ∈ nodes ∧ prev node ∈ nodes ∧ prev (next node) = node ∧ next (prev node) = node := by
  obtain ⟨front, back, rfl⟩ := List.append_of_mem member
  have turned := ring_rotate_append front (node :: back) ring
  rw [List.cons_append] at turned
  have after := ring_next_head turned
  have before := ring_prev_first turned
  have nextMember := List.mem_of_head? after
  have prevMember : prev node ∈ node :: (back ++ front) := before ▸ List.getLast_mem _
  refine ⟨by grind, by grind, ?_, ?_⟩
  · cases shape : back ++ front with
    | nil =>
      rw [shape] at turned
      rw [(ring_singleton.mp turned).1, (ring_singleton.mp turned).2]
    | cons second rest =>
      rw [shape] at turned
      rw [ring_next_first turned]
      exact (List.isChain_cons_cons.mp turned.1).1.2
  · exact (turned.2 _ (before ▸ List.getLast?_eq_some_getLast _) node rfl).1

/-- A node is its own neighbour only in a ring of one node. -/
theorem ring_neighbours_ne {other : α} (ring : Ring next prev nodes) (distinct : nodes.Nodup)
    (member : node ∈ nodes) (otherMember : other ∈ nodes) (different : other ≠ node) :
    next node ≠ node ∧ prev node ≠ node := by
  obtain ⟨front, back, rfl⟩ := List.append_of_mem member
  have turned := ring_rotate_append front (node :: back) ring
  have fresh := (List.nodup_cons.mp (List.nodup_middle.mp distinct)).1
  cases shape : back ++ front with
  | nil =>
    obtain ⟨rfl, rfl⟩ := List.append_eq_nil_iff.mp shape
    exact absurd (by simpa using otherMember) different
  | cons second rest =>
    rw [List.cons_append, shape] at turned
    have nextNode := ring_next_first turned
    have prevNode := ring_prev_first turned
    rw [List.getLast_cons (by simp)] at prevNode
    have tail := List.getLast_mem (l := second :: rest) (by simp)
    rw [← prevNode, ← shape] at tail
    have head : next node ∈ back ++ front := by simp [shape, nextNode]
    constructor
    · intro same
      rw [same] at head
      exact fresh (by simpa [or_comm] using head)
    · intro same
      rw [same] at tail
      exact fresh (by simpa [or_comm] using tail)

/-- Nor does a chain of distinct nodes notice what is written at its seam: to the
forward link of its last node and the backward link of its first one. -/
private theorem chain_relinked (chain : (first :: rest).IsChain (Links next prev))
    (distinct : (first :: rest).Nodup) (isLast : (first :: rest).getLast? = some last)
    (nexts : ∀ other ∈ first :: rest, other ≠ last → next' other = next other)
    (prevs : ∀ other ∈ first :: rest, other ≠ first → prev' other = prev other) :
    (first :: rest).IsChain (Links next' prev') := by
  have front : (first :: rest).dropLast ++ [last] = first :: rest :=
    List.dropLast_append_getLast? last isLast
  have lastOnce : last ∉ (first :: rest).dropLast := by
    intro member
    rw [← front] at distinct
    exact (List.nodup_append.mp distinct).2.2 last member last (by simp) rfl
  have firstOnce : first ∉ rest := (List.nodup_cons.mp distinct).1
  apply chain_unchanged chain
  · intro other inside
    exact nexts other (List.dropLast_subset _ inside) (fun same => lastOnce (same ▸ inside))
  · intro other inside
    exact prevs other (List.mem_of_mem_tail inside)
      (fun same => firstOnce (same ▸ by simpa using inside))

/-- Linking a fresh node between the last node and the first one puts it at
the end of the ring. -/
theorem ring_insert (ring : Ring next prev (first :: rest)) (distinct : (first :: rest).Nodup)
    (isLast : (first :: rest).getLast? = some last)
    (nextLast : next' last = node) (nextNode : next' node = first)
    (prevNode : prev' node = last) (prevFirst : prev' first = node)
    (nexts : ∀ other ∈ first :: rest, other ≠ last → next' other = next other)
    (prevs : ∀ other ∈ first :: rest, other ≠ first → prev' other = prev other) :
    Ring next' prev' ((first :: rest) ++ [node]) := by
  have chain := chain_relinked ring.1 distinct isLast nexts prevs
  refine ⟨List.isChain_append.mpr ⟨chain, .singleton _, ?_⟩, ?_⟩
  · intro tail tailMember head headMember
    obtain rfl : node = head := by simpa using headMember
    obtain rfl : last = tail := by simpa [isLast] using tailMember
    exact ⟨nextLast, prevNode⟩
  · intro tail tailMember head headMember
    obtain rfl : node = tail := by
      simpa only [List.getLast?_concat, Option.mem_def, Option.some.injEq] using tailMember
    obtain rfl : first = head := by simpa using headMember
    exact ⟨nextNode, prevFirst⟩

/-- Linking the neighbours of the first node to each other takes it out of the
ring. -/
theorem ring_remove (ring : Ring next prev (node :: first :: rest))
    (distinct : (first :: rest).Nodup)
    (nextLast : next' (prev node) = next node) (prevFirst : prev' (next node) = prev node)
    (nexts : ∀ other ∈ first :: rest, other ≠ prev node → next' other = next other)
    (prevs : ∀ other ∈ first :: rest, other ≠ next node → prev' other = prev other) :
    Ring next' prev' (first :: rest) := by
  have nextNode : next node = first := ring_next_first ring
  have isLast : (first :: rest).getLast? = some (prev node) := by
    rw [ring_prev_first ring, List.getLast_cons (by simp)]
    exact List.getLast?_eq_some_getLast (by simp)
  obtain ⟨_, chain⟩ := List.isChain_cons_cons.mp ring.1
  rw [nextNode] at nextLast prevFirst prevs
  refine ⟨chain_relinked chain distinct isLast nexts prevs, ?_⟩
  intro last lastMember head headMember
  obtain rfl : first = head := by simpa using headMember
  obtain rfl : prev node = last := Option.some.inj (isLast.symm.trans lastMember)
  exact ⟨nextLast, prevFirst⟩

end Gkrtos.CircularList
