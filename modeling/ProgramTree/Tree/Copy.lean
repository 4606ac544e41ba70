import ProgramTree.Tree.Basic

/-!
# Copying trees

A node is copied by taking the entries linked after it apart into copies without links and
linking those again. Children are copied the same way, each with its whole chain.
-/

namespace ProgramTree

mutual

/-- Copy a form with all its children. -/
def Form.copy : Form → Form
  | .integer value => .integer value
  | .reference name => .reference name
  | .binary operator left right => .binary operator (Node.copy left) (Node.copy right)
  | .unary operator operand => .unary operator (Node.copy operand)
  | .assign name value => .assign name (Node.copy value)
  | .declare name initializer => .declare name (Node.copyOptional initializer)
  | .conditional condition thenBranch elseBranch =>
    .conditional (Node.copy condition) (Node.copy thenBranch) (Node.copyOptional elseBranch)
  | .loop condition body => .loop (Node.copy condition) (Node.copy body)
  | .block body => .block (Node.copyOptional body)

/-- Copy a node if there is one. -/
def Node.copyOptional : Option Node → Option Node
  | none => none
  | some node => some (Node.copy node)

/-- Copy a node: its first entry, then the relinked copies of the entries after it. -/
def Node.copy : Node → Node
  | .last head => .last (Form.copy head)
  | .link head next => .cons (Form.copy head) (Chain.relink (Node.copyEntriesOnto [] next))

/-- Copy every entry of a chain without its link, after the already collected copies, which
stand in reverse. -/
def Node.copyEntriesOnto (collected : List Node) : Node → List Node
  | .last head => (.last (Form.copy head) :: collected).reverse
  | .link head next => Node.copyEntriesOnto (.last (Form.copy head) :: collected) next

end

/-- Copying entries gives one copy without a link for each of them, in order. -/
theorem Node.copyEntriesOnto_eq (collected : List Node) (node : Node) :
    Node.copyEntriesOnto collected node =
      collected.reverse ++ node.toList.map fun head => Chain.last head.copy := by
  induction node generalizing collected with
  | last head => simp [Node.copyEntriesOnto]
  | link head next ih => simp [Node.copyEntriesOnto, ih]

end ProgramTree
