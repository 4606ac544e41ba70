import ProgramTree.Tree.Context
import Std.Data.TreeMap

/-!
# Workspaces

A workspace keeps nodes in named slots. A slot owns its node: taking the node out empties the
slot, and putting a node in replaces whatever the slot held. An edit is a sequence of such steps
that either succeeds as a whole or ends in a fault and leaves the workspace as it was.
-/

namespace ProgramTree

/-- Nodes in named slots, ordered by name. -/
structure Workspace where
  slots : Std.TreeMap String Node := {}

/-- A change of a workspace that may end in a fault. -/
abbrev Edit := StateT Workspace (Except Fault)

/-- The node in a slot. -/
def Workspace.get (workspace : Workspace) (name : String) : Except Fault Node :=
  match workspace.slots[name]? with
  | some node => .ok node
  | none => .error (.noSlot name)

/-- The names of the slots that hold a node, in ascending order. -/
def Workspace.names (workspace : Workspace) : List String :=
  workspace.slots.keys

/-- The node that a path leads to from an optional node; an absent node stays absent. -/
def resolve (node : Option Node) (path : List String) : Except Fault (Option Node) :=
  match node with
  | none => .ok none
  | some node => do
    let (_, inner) ← node.walk path
    return some inner

/-- The node that a path leads to from a slot; without a slot there is no node. -/
def Workspace.view (workspace : Workspace) (slot : Option String) (path : List String) :
    Except Fault (Option Node) :=
  match slot with
  | none => .ok none
  | some name => do
    let node ← workspace.get name
    resolve (some node) path

/-- Insist on a node where one is needed. -/
def requireNode : Option Node → Except Fault Node
  | some node => .ok node
  | none => .error .noNode

/-- Look at the node in a slot and leave it there. -/
def Edit.look (name : String) : Edit Node := do
  let workspace ← get
  workspace.get name

/-- Put a node into a slot. -/
def Edit.put (name : String) (node : Node) : Edit Unit :=
  modify fun workspace => { workspace with slots := workspace.slots.insert name node }

/-- Empty a slot and hand over its node. -/
def Edit.take (name : String) : Edit Node := do
  let node ← Edit.look name
  modify fun workspace => { workspace with slots := workspace.slots.erase name }
  return node

/-- Take an optional slot. -/
def Edit.takeOptional : Option String → Edit (Option Node)
  | none => return none
  | some name => do
    let node ← Edit.take name
    return some node

/-- Empty slots in order and hand over their nodes; a slot named twice is empty the second
time. -/
def Edit.takeAll (names : List String) : Edit (List Node) :=
  names.mapM Edit.take

end ProgramTree
