import ProgramTree.Proofs.Appending

/-!
# Relinking and walking siblings undo each other

Relinking reads a list of nodes from the last to the first and places each first entry in front of
what was linked so far; walking the siblings reads the links from the first to the last. The
entries of a relinked chain are the first entries of the given nodes, so a walk meets them in the
given order, and relinking what a walk has met gives the chain back.

What the given nodes carry after their first entries is lost. A path through the relinked chain
follows some links and then stays below one entry, and the same part of the path leads to the same
form below the given node of that position once its own link is cut.
-/

namespace ProgramTree

variable {α : Type}

/-- Relinking gives no chain only for no chains. -/
theorem Chain.relink_eq_none_iff {chains : List (Chain α)} :
    Chain.relink chains = none ↔ chains = [] := by
  cases chains with
  | nil => simp
  | cons chain chains => simp

/-- Relinking tells lists of chains apart by their first entries and by nothing else. -/
theorem Chain.relink_eq_relink_iff {chains others : List (Chain α)} :
    Chain.relink chains = Chain.relink others ↔ chains.map Chain.head = others.map Chain.head := by
  constructor
  · intro h
    rw [← Chain.elim_toList_relink, h, Chain.elim_toList_relink]
  · intro h
    cases hothers : Chain.relink others with
    | none =>
      rw [Chain.relink_eq_none_iff] at hothers ⊢
      rw [hothers, List.map_nil, List.map_eq_nil_iff] at h
      exact h
    | some chain =>
      rw [Chain.relink_eq_some_iff] at hothers ⊢
      rw [hothers, h]

/-- Nothing is linked after the last suffix of a chain. -/
theorem Chain.exists_getLast?_suffixes (chain : Chain α) :
    ∃ final, chain.suffixes.getLast? = some final ∧ final.next? = none := by
  induction chain with
  | last head => exact ⟨.last head, rfl, rfl⟩
  | link head next ih =>
    obtain ⟨final, hfinal, hnext⟩ := ih
    refine ⟨final, ?_, hnext⟩
    rw [Chain.suffixes_link, List.getLast?_cons, hfinal]
    rfl

/-- Where a path leads does not depend on what stands around its start. -/
theorem Node.exists_walkFrom {path : List String} {outer context : Context} {node inner : Node}
    (h : node.walkFrom outer path = .ok (context, inner)) (around : Context) :
    ∃ reached, node.walkFrom around path = .ok (reached, inner) := by
  induction path generalizing outer around node with
  | nil =>
    obtain ⟨-, rfl⟩ := Prod.mk.inj (Except.ok.inj h)
    exact ⟨around, rfl⟩
  | cons segment segments ih =>
    unfold Node.walkFrom at h
    split at h
    · cases h
    · rename_i frame child hstep
      obtain ⟨reached, hreached⟩ := ih h (frame :: around)
      exact ⟨reached, (Node.walkFrom_cons hstep around segments).trans hreached⟩

/-- A path that first leads to a child leads to the same node once the link is cut. -/
theorem Node.exists_walk_detached {segment : String} {segments : List String}
    {outer context : Context} {node inner : Node} (hchild : segment ≠ "next")
    (h : node.walkFrom outer (segment :: segments) = .ok (context, inner)) :
    ∃ reached, Node.walk node.detached (segment :: segments) = .ok (reached, inner) := by
  unfold Node.walkFrom at h
  split at h
  · cases h
  · rename_i frame child hstep
    obtain ⟨step, hname, hdescend⟩ := Option.bind_eq_some_iff.mp hstep
    have hne : step ≠ .next := by
      rintro rfl
      exact hchild (Step.eq_name_of_ofName? hname)
    rw [Node.descend?_of_ne_next node hne] at hdescend
    obtain ⟨⟨hole, other⟩, hother, hpair⟩ := Option.map_eq_some_iff.mp hdescend
    obtain ⟨-, rfl⟩ := Prod.mk.inj hpair
    -- The child depends on the first entry alone, which the detached node keeps.
    have hdetached : (Step.ofName? segment).bind (Node.descend? node.detached) =
        some (.within hole none, other) := by
      rw [hname, Option.bind_some, Node.descend?_of_ne_next node.detached hne]
      exact congrArg (Option.map _) hother
    obtain ⟨reached, hreached⟩ := Node.exists_walkFrom h [.within hole none]
    exact ⟨reached, (Node.walkFrom_cons hdetached [] segments).trans hreached⟩

/-- A form that a path reaches in a relinked chain is reached below one of the given nodes without
its link, by the part of the path after the links. -/
theorem Node.exists_origin_of_relink {nodes : List Node} {chain inner : Node}
    {path : List String} {outer context : Context} (hchain : Chain.relink nodes = some chain)
    (h : chain.walkFrom outer path = .ok (context, inner)) :
    ∃ position given rest reached origin,
      path = List.replicate position "next" ++ rest ∧ nodes[position]? = some given ∧
        Node.walk given.detached rest = .ok (reached, origin) ∧ inner.head = origin.head := by
  induction path generalizing nodes chain outer with
  | nil =>
    obtain ⟨-, rfl⟩ := Prod.mk.inj (Except.ok.inj h)
    cases nodes with
    | nil => cases hchain
    | cons node nodes =>
      rw [Chain.relink_cons, Option.some.injEq] at hchain
      refine ⟨0, node, [], [], node.detached, rfl, rfl, rfl, ?_⟩
      rw [← hchain, Chain.head_cons]
      rfl
  | cons segment segments ih =>
    cases nodes with
    | nil => cases hchain
    | cons node nodes =>
      rw [Chain.relink_cons, Option.some.injEq] at hchain
      by_cases hnext : segment = "next"
      · subst hnext
        unfold Node.walkFrom at h
        split at h
        · cases h
        · rename_i frame child hlink
          obtain ⟨next, hnext, hpair⟩ := Option.map_eq_some_iff.mp hlink
          obtain ⟨-, rfl⟩ := Prod.mk.inj hpair
          -- One link further the walk is in the chain relinked from the other nodes.
          rw [← hchain, Chain.next?_cons] at hnext
          obtain ⟨position, given, rest, reached, origin, rfl, hgiven, hwalk, hhead⟩ := ih hnext h
          exact ⟨position + 1, given, rest, reached, origin, rfl, hgiven, hwalk, hhead⟩
      · obtain ⟨reached, hreached⟩ := Node.exists_walk_detached hnext h
        have hdetached : chain.detached = node.detached := by
          rw [← hchain, Chain.detached, Chain.head_cons, Chain.detached]
        rw [hdetached] at hreached
        exact ⟨0, node, segment :: segments, reached, inner, rfl, rfl, hreached, rfl⟩

/-- Relinking and walking siblings are inverse up to the links that relinking replaces.

No nodes give no chain. Any others give a chain on which a walk meets the forms of the given nodes
in order and as many of them, with nothing linked after the last; whatever a path reaches in the
chain has the form that is reached below one of the given nodes without its link, and the
statements of a block around the chain are its siblings. Conversely, relinking the copies without
links of the siblings of a node gives the node. So two lists of nodes are relinked to the same
chain exactly when they have the same forms. -/
theorem Node.relink_inverts_siblings :
    (∀ nodes : List Node, Chain.relink nodes = none ↔ nodes = []) ∧
    (∀ (first : Node) (others : List Node), ∃ chain : Node,
      Chain.relink (first :: others) = some chain ∧
      chain.siblings.remaining.map Chain.head = (first :: others).map Chain.head ∧
      chain.siblings.count = (first :: others).length ∧
      (∃ final, chain.siblings.remaining.getLast? = some final ∧ final.next? = none) ∧
      (∀ (path : List String) (context : Context) (inner : Node),
        chain.walk path = .ok (context, inner) → ∃ position given rest reached origin,
          path = List.replicate position "next" ++ rest ∧
            (first :: others)[position]? = some given ∧
            Node.walk given.detached rest = .ok (reached, origin) ∧ inner.head = origin.head) ∧
      (Node.block (some chain)).blockStatements.remaining = chain.siblings.remaining) ∧
    (∀ nodes : List Node,
      (Node.block (Chain.relink nodes)).blockStatements.remaining.map Chain.head =
        nodes.map Chain.head) ∧
    (∀ node : Node, Chain.relink
      (node.siblings.remaining.map fun sibling => .last sibling.head.copy) = some node) ∧
    ∀ nodes others : List Node,
      Chain.relink nodes = Chain.relink others ↔
        nodes.map Chain.head = others.map Chain.head := by
  refine ⟨fun _ => Chain.relink_eq_none_iff, ?_, ?_, ?_, fun _ _ => Chain.relink_eq_relink_iff⟩
  · intro first others
    obtain ⟨chain, hchain⟩ : ∃ chain, Chain.relink (first :: others) = some chain :=
      ⟨_, Chain.relink_cons first others⟩
    have hforms : chain.toList = (first :: others).map Chain.head :=
      Chain.relink_eq_some_iff.mp hchain
    refine ⟨chain, hchain, ?_, ?_, Chain.exists_getLast?_suffixes chain, ?_, rfl⟩
    · exact (Chain.map_head_suffixes chain).trans hforms
    · rw [Node.count_siblings, hforms, List.length_map]
    · intro path context inner hwalk
      exact Node.exists_origin_of_relink hchain hwalk
  · intro nodes
    rw [← Chain.elim_toList_relink nodes]
    cases Chain.relink nodes with
    | none => rfl
    | some chain => exact Chain.map_head_suffixes chain
  · intro node
    rw [Chain.relink_eq_some_iff, List.map_map]
    exact (Node.map_copy_siblings node).symm

/-- A carried link is lost, while the links below an entry are kept. -/
example :
    let block := Node.block (some ((Node.integer 3).append (Node.integer 4)))
    Chain.relink [(Node.integer 1).append (Node.integer 2), block] =
      some ((Node.integer 1).append block) :=
  rfl

end ProgramTree
