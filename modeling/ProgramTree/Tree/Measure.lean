import ProgramTree.Tree.Basic

/-!
# Measures of trees

The number of entries in a tree, its depth of nesting, the number of conditionals with an
alternative and the names it mentions. Entries linked after a node count as part of it, and
following a link does not deepen the nesting.
-/

namespace ProgramTree

mutual

/-- The number of entries that a form owns as children, at any depth. -/
def Form.size : Form → Nat
  | .integer _ => 0
  | .reference _ => 0
  | .binary _ left right => Node.size left + Node.size right
  | .unary _ operand => Node.size operand
  | .assign _ value => Node.size value
  | .declare _ initializer => Node.sizeOptional initializer
  | .conditional condition thenBranch elseBranch =>
    Node.size condition + Node.size thenBranch + Node.sizeOptional elseBranch
  | .loop condition body => Node.size condition + Node.size body
  | .block body => Node.sizeOptional body

/-- The number of entries of an optional tree. -/
def Node.sizeOptional : Option Node → Nat
  | none => 0
  | some node => Node.size node

/-- The number of entries of a tree, children and linked entries included. -/
def Node.size : Node → Nat
  | .last head => Form.size head + 1
  | .link head next => Form.size head + 1 + Node.size next

end

mutual

/-- The number of child steps from a form to its deepest descendant. -/
def Form.height : Form → Nat
  | .integer _ => 0
  | .reference _ => 0
  | .binary _ left right => max (Node.height left) (Node.height right) + 1
  | .unary _ operand => Node.height operand + 1
  | .assign _ value => Node.height value + 1
  | .declare _ initializer => Node.reachOptional initializer
  | .conditional condition thenBranch elseBranch =>
    max (max (Node.height condition) (Node.height thenBranch) + 1)
      (Node.reachOptional elseBranch)
  | .loop condition body => max (Node.height condition) (Node.height body) + 1
  | .block body => Node.reachOptional body

/-- The number of child steps through an optional child to its deepest descendant. -/
def Node.reachOptional : Option Node → Nat
  | none => 0
  | some node => Node.height node + 1

/-- The greatest number of child steps from a chain to any entry of its tree. -/
def Node.height : Node → Nat
  | .last head => Form.height head
  | .link head next => max (Form.height head) (Node.height next)

end

/-- One for a conditional that has an alternative, zero for one that has none. -/
def alternativeCount (elseBranch : Option Node) : Nat :=
  if elseBranch.isSome then 1 else 0

mutual

/-- The number of conditionals with an alternative in a form, itself included. -/
def Form.alternatives : Form → Nat
  | .integer _ => 0
  | .reference _ => 0
  | .binary _ left right => Node.alternatives left + Node.alternatives right
  | .unary _ operand => Node.alternatives operand
  | .assign _ value => Node.alternatives value
  | .declare _ initializer => Node.alternativesOptional initializer
  | .conditional condition thenBranch elseBranch =>
    alternativeCount elseBranch + Node.alternatives condition + Node.alternatives thenBranch +
      Node.alternativesOptional elseBranch
  | .loop condition body => Node.alternatives condition + Node.alternatives body
  | .block body => Node.alternativesOptional body

/-- The number of conditionals with an alternative in an optional tree. -/
def Node.alternativesOptional : Option Node → Nat
  | none => 0
  | some node => Node.alternatives node

/-- The number of conditionals with an alternative anywhere in a tree. -/
def Node.alternatives : Node → Nat
  | .last head => Form.alternatives head
  | .link head next => Form.alternatives head + Node.alternatives next

end

mutual

/-- The names mentioned by a form and its children, in order. -/
def Form.names : Form → List String
  | .integer _ => []
  | .reference name => [name]
  | .binary _ left right => Node.names left ++ Node.names right
  | .unary _ operand => Node.names operand
  | .assign name value => name :: Node.names value
  | .declare name initializer => name :: Node.namesOptional initializer
  | .conditional condition thenBranch elseBranch =>
    Node.names condition ++ Node.names thenBranch ++ Node.namesOptional elseBranch
  | .loop condition body => Node.names condition ++ Node.names body
  | .block body => Node.namesOptional body

/-- The names mentioned in an optional tree, in order. -/
def Node.namesOptional : Option Node → List String
  | none => []
  | some node => Node.names node

/-- The names mentioned anywhere in a tree, in order. -/
def Node.names : Node → List String
  | .last head => Form.names head
  | .link head next => Form.names head ++ Node.names next

end

end ProgramTree
