import ProgramTree.Tree.Copy
import ProgramTree.Workspace.Basic

/-!
# Commands on a workspace

The commands build, combine, take apart and move the nodes of a workspace. A command looks its
slots and paths up in a fixed order, so the first thing that is missing decides the fault, and a
fault undoes everything the command did before.
-/

namespace ProgramTree

/-- A node to be built around the nodes of other slots. -/
inductive Recipe where
  | binary (operator : Operator) (left right : String)
  | unary (operator : Operator) (operand : String)
  | assign (name value : String)
  | declare (name : String) (initializer : Option String)
  | conditional (condition thenBranch : String) (elseBranch : Option String)
  | loop (condition body : String)
  | block (body : Option String)

/-- Take the slots of a recipe in order and build its node. -/
def Recipe.build : Recipe → Edit Node
  | .binary operator left right => do
    let left ← Edit.take left
    let right ← Edit.take right
    return .binary operator left right
  | .unary operator operand => do
    let operand ← Edit.take operand
    return .unary operator operand
  | .assign name value => do
    let value ← Edit.take value
    return .assign name value
  | .declare name initializer => do
    let initializer ← Edit.takeOptional initializer
    return .declare name initializer
  | .conditional condition thenBranch elseBranch => do
    let condition ← Edit.take condition
    let thenBranch ← Edit.take thenBranch
    let elseBranch ← Edit.takeOptional elseBranch
    return .conditional condition thenBranch elseBranch
  | .loop condition body => do
    let condition ← Edit.take condition
    let body ← Edit.take body
    return .loop condition body
  | .block body => do
    let body ← Edit.takeOptional body
    return .block body

/-- A way of making a node the child of a new one. -/
inductive Wrapping where
  | negation
  | leftOperand
  | rightOperand
  | assignment
  | declaration
  | loopCondition
  | loopBody
  | condition
  | thenBranch
  | elseBranch
  | block

/-- Make a node the child of a new one; the number goes into a literal beside it. -/
def Wrapping.wrap (wrapping : Wrapping) (number : Nat) (node : Node) : Node :=
  let literal : Node := .integer (Int64.ofNat number)
  match wrapping with
  | .negation => .unary .neg node
  | .leftOperand => .binary .add node literal
  | .rightOperand => .binary .sub literal node
  | .assignment => .assign "a" node
  | .declaration => .declare "d" (some node)
  | .loopCondition => .loop node (.block none)
  | .loopBody => .loop (.reference "w") node
  | .condition => .conditional node (.block none) none
  | .thenBranch => .conditional (.reference "c") node (some literal)
  | .elseBranch => .conditional (.reference "c") literal (some node)
  | .block => .block (some node)

/-- Wrap a node a number of times, counting from zero. -/
def Wrapping.nest (wrapping : Wrapping) (count : Nat) (node : Node) : Node :=
  (List.range count).foldl (fun inner number => wrapping.wrap number inner) node

/-- A chain of consecutive integer literals, none above the cap. -/
def integerChain (start : Int) (count : Nat) (cap : Option Int) : Option Node :=
  Chain.relink ((List.range count).map fun (offset : Nat) =>
    let value := start + offset
    Node.integer (Int64.ofInt (cap.elim value (min value))))

/-- A command on a workspace. -/
inductive Command where
  /-- Store a node. -/
  | new (target : String) (node : Node)
  /-- Build a node from other slots and store it. -/
  | make (target : String) (recipe : Recipe)
  /-- Store a copy of the node at a path. -/
  | copy (source : String) (path : List String) (target : String)
  /-- Move a node to another slot. -/
  | move (source target : String)
  /-- Link the first entries of several slots and store the chain. -/
  | chain (sources : List String) (target : String)
  /-- Store a chain of integer literals. -/
  | integers (target : String) (start : Int) (count : Nat) (cap : Option Int)
  /-- Wrap the node of a slot a number of times. -/
  | nest (target : String) (wrapping : Wrapping) (count : Nat)
  /-- Append the node of a slot to the node at a path. -/
  | append (target : String) (path : List String) (source : String)
  /-- Replace what is linked after the node at a path. -/
  | setNext (target : String) (path : List String) (source : Option String)
  /-- Replace the form of the node at a path, keeping what is linked after it. -/
  | setForm (target : String) (path : List String) (source : String)
  /-- Detach what is linked after the node at a path and store it. -/
  | takeNext (source : String) (path : List String) (target : String)
  /-- Empty a slot. -/
  | drop (name : String)
  /-- List the slots. -/
  | slots

/-- What a command reports when it succeeds. -/
inductive Reply where
  /-- The slot that was stored into and its node. -/
  | stored (name : String) (node : Node)
  /-- There was nothing to store. -/
  | nothing
  /-- The slot that was emptied. -/
  | dropped (name : String)
  /-- The names of the slots. -/
  | names (names : List String)

/-- Store a node and report it. -/
def Edit.store (name : String) (node : Node) : Edit Reply := do
  Edit.put name node
  return .stored name node

/-- Store a node if there is one and report it. -/
def Edit.storeIfAny (name : String) : Option Node → Edit Reply
  | none => return .nothing
  | some node => Edit.store name node

/-- Change the node at a path of a slot by the node taken from another slot.

The slot and the path are looked up first. A slot cannot be its own source. -/
def Edit.combineAt (name : String) (path : List String) (source : String)
    (change : Node → Node → Node) : Edit Reply := do
  let node ← Edit.look name
  let (context, inner) ← node.walk path
  if source = name then
    throw (.noSlot source)
  let other ← Edit.take source
  Edit.store name (context.fill (change inner other))

/-- Carry out a command. -/
def Command.run : Command → Edit Reply
  | .new target node => Edit.store target node
  | .make target recipe => do
    let node ← recipe.build
    Edit.store target node
  | .copy source path target => do
    let node ← Edit.look source
    let (_, inner) ← node.walk path
    Edit.store target inner.copy
  | .move source target => do
    let node ← Edit.take source
    Edit.store target node
  | .chain sources target => do
    let nodes ← Edit.takeAll sources
    Edit.storeIfAny target (Chain.relink nodes)
  | .integers target start count cap => Edit.storeIfAny target (integerChain start count cap)
  | .nest target wrapping count => do
    let node ← Edit.take target
    Edit.store target (wrapping.nest count node)
  | .append target path source => Edit.combineAt target path source Chain.append
  | .setNext target path none => do
    let node ← Edit.look target
    let (context, inner) ← node.walk path
    Edit.store target (context.fill inner.detached)
  | .setNext target path (some source) =>
    Edit.combineAt target path source fun inner other => inner.setNext (some other)
  | .setForm target path source =>
    Edit.combineAt target path source fun inner other => inner.setHead other.head
  | .takeNext source path target => do
    let node ← Edit.look source
    let (context, inner) ← node.walk path
    match inner.next? with
    | none => return .nothing
    | some rest =>
      Edit.put source (context.fill inner.detached)
      Edit.store target rest
  | .drop name => do
    let _ ← Edit.take name
    return .dropped name
  | .slots => do
    let workspace ← get
    return .names workspace.names

/-- Carry out a command; a fault leaves the workspace as it was. -/
def Workspace.step (workspace : Workspace) (command : Command) :
    Except Fault Reply × Workspace :=
  match command.run.run workspace with
  | .ok (reply, changed) => (.ok reply, changed)
  | .error fault => (.error fault, workspace)

end ProgramTree
