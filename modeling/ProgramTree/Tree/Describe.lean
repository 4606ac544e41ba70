import ProgramTree.Datum.Basic
import ProgramTree.Tree.Basic

/-!
# Trees as data

A form is described as a record named for its kind, and a node as the sequence of the forms in
its chain. Missing children are shown as absent.
-/

namespace ProgramTree

mutual

/-- Describe a form as a record of its contents and children. -/
def Form.describe : Form → Datum
  | .integer value => .record Tag.integer.name (.last ("value", .integer value.toInt))
  | .reference name => .record Tag.reference.name (.last ("name", .text name))
  | .binary operator left right =>
    .record Tag.binary.name
      (.link ("operator", .word operator.name)
        (.link ("left", .sequence (Node.describeOnto [] left))
          (.last ("right", .sequence (Node.describeOnto [] right)))))
  | .unary operator operand =>
    .record Tag.unary.name
      (.link ("operator", .word operator.name)
        (.last ("operand", .sequence (Node.describeOnto [] operand))))
  | .assign name value =>
    .record Tag.assign.name
      (.link ("name", .text name) (.last ("value", .sequence (Node.describeOnto [] value))))
  | .declare name initializer =>
    .record Tag.declare.name
      (.link ("name", .text name) (.last ("initializer", Node.describeOptional initializer)))
  | .conditional condition thenBranch elseBranch =>
    .record Tag.conditional.name
      (.link ("condition", .sequence (Node.describeOnto [] condition))
        (.link ("then_branch", .sequence (Node.describeOnto [] thenBranch))
          (.last ("else_branch", Node.describeOptional elseBranch))))
  | .loop condition body =>
    .record Tag.loop.name
      (.link ("condition", .sequence (Node.describeOnto [] condition))
        (.last ("body", .sequence (Node.describeOnto [] body))))
  | .block body => .record Tag.block.name (.last ("body", Node.describeOptional body))

/-- Describe an optional node. -/
def Node.describeOptional : Option Node → Datum
  | none => .word "None"
  | some node => .wrapped "Some" (.sequence (Node.describeOnto [] node))

/-- Describe every form of a chain, after the already described ones, which stand in reverse. -/
def Node.describeOnto (earlier : List Datum) : Node → Chain Datum
  | .last head => (Chain.last (Form.describe head)).linkBefore earlier
  | .link head next => Node.describeOnto (Form.describe head :: earlier) next

end

/-- Describe a node as the sequence of the forms in its chain. -/
def Node.describe (node : Node) : Datum :=
  .sequence (Node.describeOnto [] node)

/-- Describing a chain puts the descriptions of its forms after the earlier ones. -/
theorem Node.toList_describeOnto (earlier : List Datum) (node : Node) :
    (Node.describeOnto earlier node).toList = earlier.reverse ++ node.toList.map Form.describe := by
  induction node generalizing earlier with
  | last head => simp [Node.describeOnto]
  | link head next ih => simp [Node.describeOnto, ih]

end ProgramTree
