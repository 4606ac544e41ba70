import ProgramTree.Chain.Cursor
import ProgramTree.Operator

/-!
# Program trees

A program is a chain of statements and expressions. Each entry of the chain has a form, which
says what it is and owns its children; every child is itself a chain, so a child may carry
further entries after it. Blocks and declarations may lack their child.

A node is an entry together with everything linked after it, which is the same as a chain.
-/

namespace ProgramTree

/-- What an entry of a program is, with the children it owns. -/
inductive Form where
  /-- An integer literal. -/
  | integer (value : Int64)
  /-- A reference to a variable. -/
  | reference (name : String)
  /-- A binary operation. -/
  | binary (operator : Operator) (left right : Chain Form)
  /-- A unary operation. -/
  | unary (operator : Operator) (operand : Chain Form)
  /-- An assignment to a variable. -/
  | assign (name : String) (value : Chain Form)
  /-- A declaration of a variable, with or without an initial value. -/
  | declare (name : String) (initializer : Option (Chain Form))
  /-- A conditional, with or without an alternative. -/
  | conditional (condition thenBranch : Chain Form) (elseBranch : Option (Chain Form))
  /-- A loop that runs its body while its condition holds. -/
  | loop (condition body : Chain Form)
  /-- A block, given by the head of its chain of statements. -/
  | block (body : Option (Chain Form))

/-- An entry of a program together with everything linked after it. -/
abbrev Node := Chain Form

/-- The nine kinds of form, without their contents. -/
inductive Tag where
  | integer
  | reference
  | binary
  | unary
  | assign
  | declare
  | conditional
  | loop
  | block
  deriving DecidableEq

/-- The name under which a kind of form is shown. -/
def Tag.name : Tag → String
  | .integer => "IntLiteral"
  | .reference => "Variable"
  | .binary => "BinaryOp"
  | .unary => "UnaryOp"
  | .assign => "Assign"
  | .declare => "VarDecl"
  | .conditional => "If"
  | .loop => "While"
  | .block => "Block"

/-- The kind of a form. -/
def Form.tag : Form → Tag
  | .integer _ => .integer
  | .reference _ => .reference
  | .binary _ _ _ => .binary
  | .unary _ _ => .unary
  | .assign _ _ => .assign
  | .declare _ _ => .declare
  | .conditional _ _ _ => .conditional
  | .loop _ _ => .loop
  | .block _ => .block

/-- The name that a reference, an assignment or a declaration carries. -/
def Form.name? : Form → Option String
  | .reference name => some name
  | .assign name _ => some name
  | .declare name _ => some name
  | _ => none

/-- The head of the statements of a block; every other form has none. -/
def Form.statements? : Form → Option Node
  | .block body => body
  | _ => none

/-- An integer literal on its own. -/
def Node.integer (value : Int64) : Node :=
  .last (.integer value)

/-- A variable reference on its own. -/
def Node.reference (name : String) : Node :=
  .last (.reference name)

/-- A binary operation on its own. -/
def Node.binary (operator : Operator) (left right : Node) : Node :=
  .last (.binary operator left right)

/-- A unary operation on its own. -/
def Node.unary (operator : Operator) (operand : Node) : Node :=
  .last (.unary operator operand)

/-- An assignment on its own. -/
def Node.assign (name : String) (value : Node) : Node :=
  .last (.assign name value)

/-- A declaration on its own. -/
def Node.declare (name : String) (initializer : Option Node) : Node :=
  .last (.declare name initializer)

/-- A conditional on its own. -/
def Node.conditional (condition thenBranch : Node) (elseBranch : Option Node) : Node :=
  .last (.conditional condition thenBranch elseBranch)

/-- A loop on its own. -/
def Node.loop (condition body : Node) : Node :=
  .last (.loop condition body)

/-- A block around a chain of statements that is already linked. -/
def Node.block (body : Option Node) : Node :=
  .last (.block body)

/-- A block around the first entries of the given nodes, linked in order. -/
def Node.blockOf (statements : List Node) : Node :=
  Node.block (Chain.relink statements)

/-- The kind of a node's first entry. -/
def Node.tag (node : Node) : Tag :=
  node.head.tag

/-- The name carried by a node's first entry. -/
def Node.name? (node : Node) : Option String :=
  node.head.name?

/-- Read the node and the entries linked after it. -/
def Node.siblings (node : Node) : Cursor Form :=
  node.cursor

/-- Read the statements of a block; there is nothing to read in any other form. -/
def Node.blockStatements (node : Node) : Cursor Form :=
  ⟨node.head.statements?⟩

end ProgramTree
