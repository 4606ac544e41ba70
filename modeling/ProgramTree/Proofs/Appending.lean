import ProgramTree.Outline.Render
import ProgramTree.Proofs.Copy
import ProgramTree.Proofs.Equality
import ProgramTree.Proofs.Paths

/-!
# Building chains by appending and by relinking

Appending keeps whatever its arguments have linked after them, and relinking replaces it. Both
are described by the entries of the resulting chain, and a chain is determined by its entries, so
each law about them is a law about lists: appending chains in turn is relinking all their entries.

A chain may be appended to from any of its entries. Following links to an entry leaves a context
that puts the entries before it back in front, and the last entry is the same from everywhere.
-/

namespace ProgramTree

variable {α : Type}

/-! ## Laws of appending -/

/-- Appending may be grouped in either way. -/
theorem Chain.append_assoc (first second third : Chain α) :
    (first.append second).append third = first.append (second.append third) := by
  apply Chain.toList_injective
  simp only [Chain.toList_append, List.append_assoc]

/-- Chains are equal if they are once appended to one chain. -/
theorem Chain.append_right_inj (first : Chain α) {second third : Chain α} :
    first.append second = first.append third ↔ second = third := by
  constructor
  · intro h
    have hentries := congrArg Chain.toList h
    rw [Chain.toList_append, Chain.toList_append] at hentries
    exact Chain.toList_injective (List.append_cancel_left hentries)
  · rintro rfl
    rfl

/-- Chains are equal if they are once one chain is appended to both. -/
theorem Chain.append_left_inj (third : Chain α) {first second : Chain α} :
    first.append third = second.append third ↔ first = second := by
  constructor
  · intro h
    have hentries := congrArg Chain.toList h
    rw [Chain.toList_append, Chain.toList_append] at hentries
    exact Chain.toList_injective (List.append_cancel_right hentries)
  · rintro rfl
    rfl

/-- Appending several chains in order joins their entries. -/
theorem Chain.toList_appendAll (first : Chain α) (others : List (Chain α)) :
    (first.appendAll others).toList = (first :: others).flatMap Chain.toList := by
  induction others generalizing first with
  | nil => simp [Chain.appendAll]
  | cons second others ih =>
    show ((first.append second).appendAll others).toList = _
    rw [ih]
    simp only [List.flatMap_cons, Chain.toList_append, List.append_assoc]

/-! ## Relinking -/

/-- The entries of an optional chain placed behind one entry follow it. -/
theorem Chain.toList_cons (head : α) (rest : Option (Chain α)) :
    (Chain.cons head rest).toList = head :: rest.elim [] Chain.toList := by
  cases rest with
  | none => rfl
  | some next => exact Chain.toList_link head next

/-- Relinking keeps the first entry of every given chain, in order. -/
theorem Chain.elim_toList_relink (chains : List (Chain α)) :
    (Chain.relink chains).elim [] Chain.toList = chains.map Chain.head := by
  induction chains with
  | nil => rfl
  | cons chain chains ih =>
    rw [Chain.relink_cons, Option.elim_some, Chain.toList_cons, ih, List.map_cons]

/-- Relinking gives the chain whose entries are the first entries of the given chains. -/
theorem Chain.relink_eq_some_iff {chains : List (Chain α)} {chain : Chain α} :
    Chain.relink chains = some chain ↔ chain.toList = chains.map Chain.head := by
  rw [← Chain.elim_toList_relink]
  cases Chain.relink chains with
  | none => simp [chain.toList_ne_nil]
  | some other =>
    rw [Option.some.injEq, Option.elim_some]
    exact ⟨fun h => by rw [h], fun h => (Chain.toList_injective h).symm⟩

/-- A chain with nothing linked after its first entry has that entry only. -/
theorem Chain.toList_of_next?_eq_none {chain : Chain α} (h : chain.next? = none) :
    chain.toList = [chain.head] := by
  cases chain with
  | last head => rfl
  | link head next => cases h

/-- The entries of chains on which nothing is linked are their first entries. -/
theorem Chain.flatMap_toList_of_next?_eq_none {chains : List (Chain α)}
    (h : ∀ chain ∈ chains, chain.next? = none) :
    chains.flatMap Chain.toList = chains.map Chain.head := by
  induction chains with
  | nil => rfl
  | cons chain chains ih =>
    rw [List.forall_mem_cons] at h
    rw [List.flatMap_cons, List.map_cons, Chain.toList_of_next?_eq_none h.1, ih h.2]
    rfl

/-- The copied forms of the siblings of a node are the entries of its chain. -/
theorem Node.map_copy_siblings (node : Node) :
    (node.siblings.remaining.map fun sibling => sibling.head.copy) = node.toList := by
  simp only [Form.copy_eq_self]
  exact node.map_head_suffixes

/-- The two ways of building a chain agree.

Appending nodes in order to a first one, with whatever is linked after each of them, is relinking
the copies without links of all their siblings. If nothing is linked after any of them, it is
relinking the nodes themselves, so that blocks built in either way are equal and print alike. -/
theorem Node.appendAll_agrees_with_relink (first : Node) (others : List Node) :
    Chain.relink ((first :: others).flatMap fun node =>
        node.siblings.remaining.map fun sibling => .last sibling.head.copy) =
      some (first.appendAll others) ∧
    ((∀ node ∈ first :: others, node.next? = none) →
      Chain.relink (first :: others) = some (first.appendAll others) ∧
      (Node.blockOf (first :: others) == Node.block (some (first.appendAll others))) = true ∧
      ∀ level, render (some (Node.blockOf (first :: others))) level =
        render (some (Node.block (some (first.appendAll others)))) level) := by
  constructor
  · rw [Chain.relink_eq_some_iff, Chain.toList_appendAll, List.map_flatMap]
    congr 1
    funext node
    rw [List.map_map, ← Node.map_copy_siblings node]
    rfl
  · intro halone
    have hrelink : Chain.relink (first :: others) = some (first.appendAll others) := by
      rw [Chain.relink_eq_some_iff, Chain.toList_appendAll,
        Chain.flatMap_toList_of_next?_eq_none halone]
    have hblock : Node.blockOf (first :: others) = Node.block (some (first.appendAll others)) := by
      rw [Node.blockOf, hrelink]
    exact ⟨hrelink, beq_iff_eq.mpr hblock, fun level => by rw [hblock]⟩

/-! ## Appending from any entry -/

/-- The siblings that a node counts are the entries of its chain. -/
theorem Node.count_siblings (node : Node) : node.siblings.count = node.toList.length :=
  Chain.length_eq_length_toList node

/-- A chain has one suffix for each of its entries. -/
theorem Chain.length_suffixes (chain : Chain α) : chain.suffixes.length = chain.toList.length := by
  rw [← chain.map_head_suffixes, List.length_map]

/-- The suffixes of a suffix are those of the chain from its own position on. -/
theorem Chain.suffixes_of_getElem? {chain inner : Chain α} {position : Nat}
    (h : chain.suffixes[position]? = some inner) :
    inner.suffixes = chain.suffixes.drop position := by
  induction chain generalizing position with
  | last head =>
    cases position with
    | zero =>
      obtain rfl : Chain.last head = inner := Option.some.inj h
      rfl
    | succ position => simp at h
  | link head next ih =>
    rw [Chain.suffixes_link] at h
    cases position with
    | zero =>
      obtain rfl : Chain.link head next = inner := Option.some.inj h
      rfl
    | succ position =>
      rw [Chain.suffixes_link, List.drop_succ_cons]
      exact ih h

/-- A suffix has the entries of the chain from its own position on. -/
theorem Chain.toList_of_getElem?_suffixes {chain inner : Chain α} {position : Nat}
    (h : chain.suffixes[position]? = some inner) :
    inner.toList = chain.toList.drop position := by
  rw [← inner.map_head_suffixes, ← chain.map_head_suffixes, Chain.suffixes_of_getElem? h,
    List.map_drop]

/-- What is linked after a chain is its second suffix. -/
theorem Chain.getElem?_one_suffixes (chain : Chain α) : chain.suffixes[1]? = chain.next? := by
  cases chain with
  | last head => rfl
  | link head next => cases next <;> simp [Chain.next?]

/-- What is linked after a suffix is the suffix at the next position. -/
theorem Chain.next?_of_getElem?_suffixes {chain inner : Chain α} {position : Nat}
    (h : chain.suffixes[position]? = some inner) :
    inner.next? = chain.suffixes[position + 1]? := by
  rw [← inner.getElem?_one_suffixes, Chain.suffixes_of_getElem? h, List.getElem?_drop]

/-- Every position below the number of siblings has a sibling. -/
theorem Node.exists_sibling {node : Node} {position : Nat}
    (h : position < node.siblings.count) :
    ∃ inner, node.siblings.remaining[position]? = some inner := by
  rw [Node.count_siblings, ← Chain.length_suffixes] at h
  exact ⟨_, List.getElem?_eq_getElem h⟩

/-- The context around the sibling at a position: the entries before it, linked. -/
def Node.linksBefore (node : Node) (position : Nat) : Context :=
  (node.toList.take position).reverse.map .after

/-- Filling the place of a sibling puts the entries before it back in front. -/
theorem Node.toList_fill_linksBefore (node inner : Node) (position : Nat) :
    ((node.linksBefore position).fill inner).toList =
      node.toList.take position ++ inner.toList := by
  rw [Node.linksBefore, Context.fill_map_after, Chain.toList_linkBefore, List.reverse_reverse]

/-- The place of a sibling filled with that sibling is the node. -/
theorem Node.fill_linksBefore {node inner : Node} {position : Nat}
    (h : node.siblings.remaining[position]? = some inner) :
    (node.linksBefore position).fill inner = node := by
  apply Chain.toList_injective
  rw [Node.toList_fill_linksBefore, Chain.toList_of_getElem?_suffixes h, List.take_append_drop]

/-- Following as many links as a position leads to the sibling there. -/
theorem Node.walk_replicate_next {node inner : Node} {position : Nat}
    (h : node.siblings.remaining[position]? = some inner) :
    node.walk (List.replicate position "next") = .ok (node.linksBefore position, inner) := by
  obtain ⟨hposition, -⟩ := List.getElem?_eq_some_iff.mp h
  have hlength : position ≤ node.toList.length := by
    rw [← node.length_suffixes]
    exact Nat.le_of_lt hposition
  rw [Node.walk_eq_ok_iff, Node.fill_linksBefore h, Node.linksBefore, Context.path_map_after,
    List.length_reverse, List.length_take, Nat.min_eq_left hlength]
  exact ⟨rfl, rfl⟩

/-- Appending at the place of a sibling appends to the whole chain. -/
theorem Node.fill_linksBefore_append (node inner added : Node) (position : Nat) :
    (node.linksBefore position).fill (inner.append added) =
      ((node.linksBefore position).fill inner).append added := by
  apply Chain.toList_injective
  simp only [Node.toList_fill_linksBefore, Chain.toList_append, List.append_assoc]

/-- A first entry to which its rest is appended again is the whole chain. -/
theorem Chain.detached_append {chain rest : Chain α} (h : chain.next? = some rest) :
    chain.detached.append rest = chain := by
  cases chain with
  | last head => cases h
  | link head next =>
    obtain rfl : next = rest := Option.some.inj h
    rfl

/-- Appending joins the forms of two chains, from whichever sibling of the first it starts.

The sibling at a position is the one that so many links lead to. Appending to it leaves a chain
with the forms of the first and then of the second node, which does not depend on the position.
So appending is associative and can be cancelled on both sides, and what is detached after a
sibling can be appended again to give the chain back. -/
theorem Node.append_joins_siblings :
    (∀ (first second : Node) (position : Nat), position < first.siblings.count →
      ∃ context inner, first.siblings.remaining[position]? = some inner ∧
        first.walk (List.replicate position "next") = .ok (context, inner) ∧
        context.fill (inner.append second) = first.append second) ∧
    (∀ first second : Node, (first.append second).toList = first.toList ++ second.toList) ∧
    (∀ first second : Node, Cursor.count (Node.siblings (first.append second)) =
      first.siblings.count + second.siblings.count) ∧
    (∀ first second third : Node,
      (first.append second).append third = first.append (second.append third)) ∧
    (∀ first second third : Node,
      (first.append second == first.append third) = (second == third)) ∧
    (∀ first second third : Node,
      (first.append third == second.append third) = (first == second)) ∧
    ∀ (node : Node) (position : Nat), position + 1 < node.siblings.count →
      ∃ context inner detached, node.siblings.remaining[position]? = some inner ∧
        node.walk (List.replicate position "next") = .ok (context, inner) ∧
        inner.next? = some detached ∧
        (context.fill inner.detached).append detached = node ∧
        context.fill (inner.detached.append detached) = node := by
  refine ⟨?_, Chain.toList_append, ?_, Chain.append_assoc, ?_, ?_, ?_⟩
  · intro first second position hposition
    obtain ⟨inner, hinner⟩ := Node.exists_sibling hposition
    refine ⟨_, inner, hinner, Node.walk_replicate_next hinner, ?_⟩
    rw [Node.fill_linksBefore_append, Node.fill_linksBefore hinner]
  · intro first second
    rw [Node.count_siblings, Node.count_siblings, Node.count_siblings, Chain.toList_append,
      List.length_append]
  · intro first second third
    rw [Bool.eq_iff_iff, beq_iff_eq, beq_iff_eq, Chain.append_right_inj]
  · intro first second third
    rw [Bool.eq_iff_iff, beq_iff_eq, beq_iff_eq, Chain.append_left_inj]
  · intro node position hposition
    obtain ⟨inner, hinner⟩ := Node.exists_sibling (Nat.lt_of_succ_lt hposition)
    -- What is linked after the sibling is the sibling at the next position.
    obtain ⟨detached, hdetached⟩ := Node.exists_sibling hposition
    have hnext : inner.next? = some detached :=
      (Chain.next?_of_getElem?_suffixes hinner).trans hdetached
    have hrestored : (node.linksBefore position).fill (inner.detached.append detached) = node := by
      rw [Chain.detached_append hnext, Node.fill_linksBefore hinner]
    refine ⟨_, inner, detached, hinner, Node.walk_replicate_next hinner, hnext, ?_, hrestored⟩
    rw [← Node.fill_linksBefore_append, hrestored]

end ProgramTree
