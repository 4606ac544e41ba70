/-!
# Faults of tree editing

What can go wrong when a node is looked up, apart from building it: a path that leads nowhere, a
slot that holds nothing, or no node at all where one is needed.
-/

namespace ProgramTree

/-- Why a node could not be found. -/
inductive Fault where
  /-- A segment of a path that does not lead to a node. -/
  | badPath (segment : String)
  /-- A slot that holds nothing. -/
  | noSlot (name : String)
  /-- No node was given where one is needed. -/
  | noNode
  deriving DecidableEq

/-- The text that goes with a fault: what was looked up in vain. -/
def Fault.message : Fault → String
  | .badPath segment => segment
  | .noSlot name => name
  | .noNode => ""

end ProgramTree
