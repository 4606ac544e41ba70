import ProgramTree.Tree.Basic

/-!
# Looking at nodes

Short facts about a node without its contents: the kind and name of the entries in its chain and
of the statements in its block.
-/

namespace ProgramTree

/-- The kind of an entry and the name it carries, if any. -/
structure Brief where
  tag : Tag
  name? : Option String

/-- The kind and name of a node's first entry. -/
def Node.brief (node : Node) : Brief :=
  { tag := node.tag
    name? := node.name? }

/-- What can be seen of a node from outside. -/
structure Inspection where
  /-- The node's own kind and name. -/
  self : Brief
  /-- Whether anything is linked after the node. -/
  hasNext : Bool
  /-- The number of entries in the chain that starts at the node. -/
  length : Nat
  /-- The entries of that chain. -/
  siblings : List Brief
  /-- The names carried by those entries. -/
  names : List String
  /-- The statements of the node if it is a block. -/
  statements : List Brief

/-- Look at a node. -/
def Node.inspect (node : Node) : Inspection :=
  let siblings := node.siblings.remaining.map Node.brief
  { self := node.brief
    hasNext := node.next?.isSome
    length := node.siblings.count
    siblings := siblings
    names := siblings.filterMap Brief.name?
    statements := node.blockStatements.remaining.map Node.brief }

end ProgramTree
