import ProgramTree.Tree.Basic

/-!
# What an outline shows of a tree

An outline does not show where one child chain ends and the next begins: the operands of a binary
operation, the condition and the branch of a conditional, and the condition and the body of a
loop run together, and a missing initial value or block body looks like an empty one. A merged
tree keeps everything else.
-/

namespace ProgramTree

/-- A form whose children are lists, with neighbouring child chains run together. -/
inductive Merged where
  | integer (value : Int64)
  | reference (name : String)
  | binary (operator : Operator) (operands : List Merged)
  | unary (operator : Operator) (operand : List Merged)
  | assign (name : String) (value : List Merged)
  | declare (name : String) (initializer : List Merged)
  | conditional (conditionThenBranch : List Merged) (elseBranch : Option (List Merged))
  | loop (conditionBody : List Merged)
  | block (body : List Merged)

mutual

/-- Run neighbouring children of a form together. -/
def Form.merge : Form → Merged
  | .integer value => .integer value
  | .reference name => .reference name
  | .binary operator left right => .binary operator (Node.merge left ++ Node.merge right)
  | .unary operator operand => .unary operator (Node.merge operand)
  | .assign name value => .assign name (Node.merge value)
  | .declare name initializer => .declare name ((Node.mergeOptional initializer).getD [])
  | .conditional condition thenBranch elseBranch =>
    .conditional (Node.merge condition ++ Node.merge thenBranch) (Node.mergeOptional elseBranch)
  | .loop condition body => .loop (Node.merge condition ++ Node.merge body)
  | .block body => .block ((Node.mergeOptional body).getD [])

/-- The merged forms of an optional chain. -/
def Node.mergeOptional : Option Node → Option (List Merged)
  | none => none
  | some node => some (Node.merge node)

/-- The merged forms of a chain in order. -/
def Node.merge : Node → List Merged
  | .last head => [Form.merge head]
  | .link head next => Form.merge head :: Node.merge next

end

end ProgramTree
