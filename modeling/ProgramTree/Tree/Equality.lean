import ProgramTree.Tree.Basic

/-!
# Comparing trees

Two nodes are compared by walking both chains side by side: they are equal when entry after entry
has equal forms and both chains end together. Equal forms have the same kind, the same contents
and equal children, and a missing child equals only a missing child.
-/

namespace ProgramTree

mutual

/-- Whether two forms have the same kind, contents and children. -/
def Form.same : Form → Form → Bool
  | .integer value, .integer otherValue => value == otherValue
  | .reference name, .reference otherName => name == otherName
  | .binary operator left right, .binary otherOperator otherLeft otherRight =>
    operator == otherOperator && Node.same left otherLeft && Node.same right otherRight
  | .unary operator operand, .unary otherOperator otherOperand =>
    operator == otherOperator && Node.same operand otherOperand
  | .assign name value, .assign otherName otherValue =>
    name == otherName && Node.same value otherValue
  | .declare name initializer, .declare otherName otherInitializer =>
    name == otherName && Node.sameOptional initializer otherInitializer
  | .conditional condition thenBranch elseBranch,
      .conditional otherCondition otherThen otherElse =>
    Node.same condition otherCondition && Node.same thenBranch otherThen &&
      Node.sameOptional elseBranch otherElse
  | .loop condition body, .loop otherCondition otherBody =>
    Node.same condition otherCondition && Node.same body otherBody
  | .block body, .block otherBody => Node.sameOptional body otherBody
  | _, _ => false

/-- Whether two optional nodes are both absent or both present and equal. -/
def Node.sameOptional : Option Node → Option Node → Bool
  | none, none => true
  | some node, some other => Node.same node other
  | _, _ => false

/-- Whether two chains have equal forms entry after entry and end together. -/
def Node.same : Node → Node → Bool
  | .last head, .last otherHead => Form.same head otherHead
  | .link head next, .link otherHead otherNext =>
    Form.same head otherHead && Node.same next otherNext
  | _, _ => false

end

/-- Forms are compared by kind, contents and children. -/
instance : BEq Form := ⟨Form.same⟩

/-- Nodes are compared by walking both chains. -/
instance : BEq Node := ⟨Node.same⟩

end ProgramTree
