import ProgramTree.Outline.Basic

/-!
# Printing outlines

The printer walks a tree and adds one line after another to a growing text. A line is indented by
two spaces per level, and the level of a child is one more than that of its parent. Levels are
64-bit words. An indent may not be longer than the longest text, and a line that would need a
longer one stops the printer, so that nothing is printed at all.

The walk is written once for every printer, that is for every way to take a line and to go on to a
child. The text is what the walk gives with the printer that adds its lines to a text.

Linked entries are walked in a loop; only the nesting of a tree costs pending work.
-/

namespace ProgramTree

/-- Why a tree could not be printed. -/
inductive RenderError where
  /-- The indent of a line would be longer than any text can be. -/
  | capacityOverflow
  deriving DecidableEq

/-- A printing error in words. -/
def RenderError.message : RenderError → String
  | .capacityOverflow => "capacity overflow"

/-- The number of bytes that the longest text may have, one less than `2 ^ 63`. -/
def maxTextBytes : Nat :=
  0x7fffffffffffffff

/-- The indent of a line at a level. -/
def indent (level : UInt64) : Except RenderError String :=
  let width := 2 * level.toNat
  if width ≤ maxTextBytes then .ok (String.ofList (List.replicate width ' '))
  else .error .capacityOverflow

/-- Add one line with a label at a level. -/
def pushLine (out : String) (level : UInt64) (label : String) : Except RenderError String := do
  let margin ← indent level
  return out ++ margin ++ label ++ "\n"

/-- What is done on a walk over a tree: at a line, and before a child is visited. -/
structure Printer (ε σ : Type) where
  /-- Add one line with a label at a level. -/
  line : σ → UInt64 → String → Except ε σ
  /-- Go on to a child of a form at a level. -/
  descend : σ → UInt64 → σ

variable {ε σ : Type}

/-- Visit a child of a form at a level. The level of a child is computed here and nowhere else, so
`descend` meets every level from which one is computed. -/
@[inline]
def Printer.visitChild (printer : Printer ε σ) (out : σ) (level : UInt64)
    (visit : σ → UInt64 → Except ε σ) : Except ε σ :=
  visit (printer.descend out level) (level + 1)

mutual

/-- Add the lines of a form and its children. -/
def Printer.pushForm (printer : Printer ε σ) (out : σ) (level : UInt64) : Form → Except ε σ
  | .integer value => printer.line out level (Form.integer value).label
  | .reference name => printer.line out level (Form.reference name).label
  | .binary operator left right => do
    let out ← printer.line out level (Form.binary operator left right).label
    let out ← printer.visitChild out level (printer.pushNode · · left)
    printer.visitChild out level (printer.pushNode · · right)
  | .unary operator operand => do
    let out ← printer.line out level (Form.unary operator operand).label
    printer.visitChild out level (printer.pushNode · · operand)
  | .assign name value => do
    let out ← printer.line out level (Form.assign name value).label
    printer.visitChild out level (printer.pushNode · · value)
  | .declare name initializer => do
    let out ← printer.line out level (Form.declare name initializer).label
    printer.visitChild out level (printer.pushOptional · · initializer)
  | .conditional condition thenBranch elseBranch => do
    let out ← printer.line out level (Form.conditional condition thenBranch elseBranch).label
    let out ← printer.visitChild out level (printer.pushNode · · condition)
    let out ← printer.visitChild out level (printer.pushNode · · thenBranch)
    printer.pushElse out level elseBranch
  | .loop condition body => do
    let out ← printer.line out level (Form.loop condition body).label
    let out ← printer.visitChild out level (printer.pushNode · · condition)
    printer.visitChild out level (printer.pushNode · · body)
  | .block body => do
    let out ← printer.line out level (Form.block body).label
    printer.visitChild out level (printer.pushOptional · · body)

/-- Add the line that announces an alternative and the lines of the alternative, if there is
one. -/
def Printer.pushElse (printer : Printer ε σ) (out : σ) (level : UInt64) :
    Option Node → Except ε σ
  | none => pure out
  | some node => do
    let out ← printer.line out level elseLabel
    printer.visitChild out level (printer.pushNode · · node)

/-- Add the lines of an optional node; an absent node has none. -/
def Printer.pushOptional (printer : Printer ε σ) (out : σ) (level : UInt64) :
    Option Node → Except ε σ
  | none => pure out
  | some node => printer.pushNode out level node

/-- Add the lines of every entry of a chain. -/
def Printer.pushNode (printer : Printer ε σ) (out : σ) (level : UInt64) : Node → Except ε σ
  | .last head => printer.pushForm out level head
  | .link head next => do
    let out ← printer.pushForm out level head
    printer.pushNode out level next

end

/-- The printer that adds its lines to a text. -/
def textPrinter : Printer RenderError String where
  line := pushLine
  descend out _ := out

/-- Add the lines of an optional node to a text; an absent node has none. -/
def Node.pushOptional (out : String) (level : UInt64) (node : Option Node) :
    Except RenderError String :=
  textPrinter.pushOptional out level node

/-- Print an optional node at a level; an absent node has no lines. -/
def render (node : Option Node) (level : UInt64) : Except RenderError String :=
  Node.pushOptional "" level node

/-- Print a node at the left margin. -/
def Node.display (node : Node) : Except RenderError String :=
  render (some node) 0

/-- Print an optional node at a level and emit the text, unless it is empty. -/
def emitTree {m : Type → Type} [Monad m] (emit : String → m Unit) (node : Option Node)
    (level : UInt64) : ExceptT RenderError m Unit := do
  let text ← ExceptT.mk (pure (render node level))
  if text.isEmpty then return
  emit text

end ProgramTree
