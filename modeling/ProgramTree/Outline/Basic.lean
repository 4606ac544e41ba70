import ProgramTree.Tree.Basic

/-!
# Outlines

The outline of a tree lists its entries in the order in which they are met from the top, each
with its nesting depth and a label. A child is one deeper than its parent, and linked entries are
equally deep. A conditional with an alternative has a second line at its own depth, which stands
between its branches.
-/

namespace ProgramTree

/-- One line of an outline. -/
structure Line where
  depth : Nat
  label : String
  deriving DecidableEq

/-- The label of a form: its kind, and the value, operator code or name it carries. -/
def Form.label : Form → String
  | .integer value => "Int: " ++ value.toInt.repr
  | .reference name => "Var: " ++ name
  | .binary operator _ _ => "Op: " ++ operator.code.toInt.repr
  | .unary operator _ => "Unary Op: " ++ operator.code.toInt.repr
  | .assign name _ => "Assign: " ++ name
  | .declare name _ => "VarDecl: " ++ name
  | .conditional _ _ _ => "If"
  | .loop _ _ => "While"
  | .block _ => "Block"

/-- The label of the line between the branches of a conditional. -/
def elseLabel : String :=
  "Else"

/-- Move lines one level deeper. -/
def deepen (outline : List Line) : List Line :=
  outline.map fun line => { line with depth := line.depth + 1 }

/-- The line that announces an alternative, if there is one. -/
def elseLines (elseBranch : Option Node) : List Line :=
  if elseBranch.isSome then [⟨0, elseLabel⟩] else []

mutual

/-- The outline of a form and its children. -/
def Form.outline : Form → List Line
  | .integer value => [⟨0, (Form.integer value).label⟩]
  | .reference name => [⟨0, (Form.reference name).label⟩]
  | .binary operator left right =>
    ⟨0, (Form.binary operator left right).label⟩ ::
      (deepen (Node.outline left) ++ deepen (Node.outline right))
  | .unary operator operand =>
    ⟨0, (Form.unary operator operand).label⟩ :: deepen (Node.outline operand)
  | .assign name value => ⟨0, (Form.assign name value).label⟩ :: deepen (Node.outline value)
  | .declare name initializer =>
    ⟨0, (Form.declare name initializer).label⟩ :: deepen (Node.outlineOptional initializer)
  | .conditional condition thenBranch elseBranch =>
    ⟨0, (Form.conditional condition thenBranch elseBranch).label⟩ ::
      (deepen (Node.outline condition) ++ deepen (Node.outline thenBranch) ++
        elseLines elseBranch ++ deepen (Node.outlineOptional elseBranch))
  | .loop condition body =>
    ⟨0, (Form.loop condition body).label⟩ ::
      (deepen (Node.outline condition) ++ deepen (Node.outline body))
  | .block body => ⟨0, (Form.block body).label⟩ :: deepen (Node.outlineOptional body)

/-- The outline of an optional chain; an absent one has no lines. -/
def Node.outlineOptional : Option Node → List Line
  | none => []
  | some node => Node.outline node

/-- The outline of a chain: those of its entries in order. -/
def Node.outline : Node → List Line
  | .last head => Form.outline head
  | .link head next => Form.outline head ++ Node.outline next

end

/-- The outline of a chain joins the outlines of its forms. -/
theorem Node.outline_eq_flatMap (node : Node) :
    node.outline = node.toList.flatMap Form.outline := by
  induction node with
  | last head => simp [Node.outline]
  | link head next ih => simp [Node.outline, ih]

/-- Appending nodes joins their outlines. -/
theorem Node.outline_append (first second : Node) :
    Node.outline (first.append second) = first.outline ++ second.outline := by
  simp [Node.outline_eq_flatMap]

end ProgramTree
