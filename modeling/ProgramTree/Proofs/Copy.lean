import ProgramTree.Chain.Cursor
import ProgramTree.Tree.Copy

/-!
# A copied tree is the tree

Copying takes the entries after the first one apart and links copies of them again. Relinking the
entries of a chain, each on its own, gives the chain back, so nothing is lost or moved as long as
every form is copied exactly. That is shown together for forms and chains by induction over the
tree; the children of a form are chains that are copied in the same way.
-/

namespace ProgramTree

variable {α : Type}

/-- Relinking the entries of a chain, each without its link, gives the chain back. -/
theorem Chain.relink_map_last (chain : Chain α) :
    Chain.relink (chain.toList.map Chain.last) = some chain := by
  induction chain with
  | last head => rfl
  | link head next ih =>
    rw [Chain.toList_link, List.map_cons, Chain.relink_cons, ih]
    rfl

mutual

/-- Copying a form gives the form back. -/
theorem Form.copy_eq_self : ∀ form : Form, form.copy = form
  | .integer _ => rfl
  | .reference _ => rfl
  | .binary _ left right => by
    rw [Form.copy, Node.copy_eq_self left, Node.copy_eq_self right]
  | .unary _ operand => by rw [Form.copy, Node.copy_eq_self operand]
  | .assign _ value => by rw [Form.copy, Node.copy_eq_self value]
  | .declare _ initializer => by rw [Form.copy, Node.copyOptional_eq_self initializer]
  | .conditional condition thenBranch elseBranch => by
    rw [Form.copy, Node.copy_eq_self condition, Node.copy_eq_self thenBranch,
      Node.copyOptional_eq_self elseBranch]
  | .loop condition body => by
    rw [Form.copy, Node.copy_eq_self condition, Node.copy_eq_self body]
  | .block body => by rw [Form.copy, Node.copyOptional_eq_self body]

/-- Copying an optional node gives it back, present or absent. -/
theorem Node.copyOptional_eq_self : ∀ node : Option Node, Node.copyOptional node = node
  | none => rfl
  | some node => by rw [Node.copyOptional, Node.copy_eq_self node]

/-- Copying a node gives the node back with everything linked after it. -/
theorem Node.copy_eq_self : ∀ node : Node, node.copy = node
  | .last head => by rw [Node.copy, Form.copy_eq_self head]
  | .link head next => by
    rw [Node.copy, Form.copy_eq_self head, Node.copyEntriesOnto_eq_self [] next,
      List.reverse_nil, List.nil_append, Chain.relink_map_last]
    rfl

/-- The copied entries are the entries themselves, in order and without their links. -/
theorem Node.copyEntriesOnto_eq_self : ∀ (collected : List Node) (node : Node),
    Node.copyEntriesOnto collected node = collected.reverse ++ node.toList.map Chain.last
  | collected, .last head => by simp [Node.copyEntriesOnto, Form.copy_eq_self head]
  | collected, .link head next => by
    rw [Node.copyEntriesOnto, Form.copy_eq_self head,
      Node.copyEntriesOnto_eq_self (.last head :: collected) next]
    simp

end

/-- The siblings after the first call carry the forms of the chain after its first entry. -/
theorem Node.map_head_drop_siblings (node : Node) :
    (node.siblings.remaining.drop 1).map Chain.head = node.toList.tail := by
  rw [List.drop_one, List.map_tail, ← node.map_head_suffixes]
  rfl

/-- Copying is exact: it gives back the same tree, with every chain whole and in order.

It works by copying the form of every sibling after the first into a node without a link and
relinking those nodes after the copy of the first form. -/
theorem Node.copy_is_exact (node : Node) :
    node.copy = node ∧
      node.copy = .cons node.head.copy
        (Chain.relink ((node.siblings.remaining.drop 1).map fun sibling =>
          .last sibling.head.copy)) := by
  refine ⟨Node.copy_eq_self node, ?_⟩
  have hcopies :
      ((node.siblings.remaining.drop 1).map fun sibling => Chain.last sibling.head.copy) =
        node.toList.tail.map fun form => Chain.last form.copy := by
    rw [← node.map_head_drop_siblings, List.map_map]
    rfl
  rw [hcopies]
  cases node with
  | last head => rfl
  | link head next =>
    rw [Node.copy, Node.copyEntriesOnto_eq, Chain.toList_link]
    rfl

end ProgramTree
