import ProgramTree.Tree.Context

/-!
# Tearing trees down

Destroying a node first takes off everything linked after it. The entries taken off are destroyed
one at a time, each once its own link was taken off in turn, and only then the children of the
node itself are destroyed. A trace records where the destruction of each entry begins, where
nothing that was linked after the entry is left, and where it ends.

The destruction of an entry may be taken to reach to the end of the unlinking or to the end of all
of it. In both ways it opens at one event of the trace and closes at another, and the number of
destructions under way at any time can be read off these marks.
-/

namespace ProgramTree

/-- The place of an entry in a tree, as the steps that lead to it. -/
abbrev Position := List Step

/-- An event in the destruction of one entry. -/
inductive TeardownEvent where
  /-- Destruction begins; the flag tells whether an entry is still linked after this one. -/
  | enter (position : Position) (linked : Bool)
  /-- Everything that was linked after the entry is destroyed. -/
  | unlinked (position : Position)
  /-- Destruction ends, as the children of the entry are destroyed, too. -/
  | exit (position : Position)
  deriving DecidableEq

/-- The first entry and what is linked after it are parts of a node. -/
theorem Node.sizeOf_parts_lt (node : Node) :
    sizeOf node.head < sizeOf node ∧ sizeOf node.next? < sizeOf node := by
  have hform (form : Form) : 0 < sizeOf form := by cases form <;> grind
  cases node with
  | last head => exact ⟨by grind [Chain.head], by grind [Chain.next?]⟩
  | link head next => exact ⟨by grind [Chain.head], by grind [Chain.next?]⟩

/-- Taking off a link leaves a part of the node. -/
theorem Node.sizeOf_detached_le (node : Node) : sizeOf node.detached ≤ sizeOf node := by
  cases node <;> simp [Chain.detached, Chain.head]

mutual

/-- Destroy the node at a position: first what is linked after it, then its children. -/
def Node.teardown (position : Position) (node : Node) : List TeardownEvent :=
  [.enter position node.next?.isSome] ++ Node.unlink (position ++ [.next]) node.next? ++
    [.unlinked position] ++ Form.teardown position node.head ++ [.exit position]
termination_by sizeOf node
decreasing_by
  · exact node.sizeOf_parts_lt.2
  · exact node.sizeOf_parts_lt.1

/-- Destroy the entries of a chain one at a time, each after its link was taken off. -/
def Node.unlink (position : Position) : Option Node → List TeardownEvent
  | none => []
  | some node =>
    Node.teardown position node.detached ++ Node.unlink (position ++ [.next]) node.next?
termination_by chain => sizeOf chain
decreasing_by
  · have hdetached := node.sizeOf_detached_le
    rw [Option.some.sizeOf_spec]
    omega
  · have hnext := node.sizeOf_parts_lt.2
    rw [Option.some.sizeOf_spec]
    omega

/-- Destroy the children of the form at a position, in order. -/
def Form.teardown (position : Position) (form : Form) : List TeardownEvent :=
  form.owned.attach.flatMap fun ⟨(step, child), _⟩ => Node.teardown (position ++ [step]) child
termination_by sizeOf form
decreasing_by exact Form.sizeOf_lt_of_mem_owned ‹_›

end

/-- How far the destruction of an entry is taken to reach. -/
inductive Extent where
  /-- Until everything that was linked after the entry is destroyed. -/
  | unlinking
  /-- Until the children of the entry are destroyed, too. -/
  | whole

/-- The beginning or the end of the destruction of one entry. -/
inductive Mark where
  | opens (position : Position)
  | closes (position : Position)
  deriving DecidableEq

/-- The mark that an event sets, if destructions are taken to reach so far. -/
def TeardownEvent.mark? (extent : Extent) : TeardownEvent → Option Mark
  | .enter position _ => some (.opens position)
  | .unlinked position =>
    match extent with
    | .unlinking => some (.closes position)
    | .whole => none
  | .exit position =>
    match extent with
    | .unlinking => none
    | .whole => some (.closes position)

/-- The marks that the events of a trace set, in order. -/
def marks (extent : Extent) (trace : List TeardownEvent) : List Mark :=
  trace.filterMap (TeardownEvent.mark? extent)

/-- The positions of the entries whose destruction opens, in order. -/
def opened (marks : List Mark) : List Position :=
  marks.filterMap fun
    | .opens position => some position
    | .closes _ => none

/-- The positions of the entries whose destruction closes, in order. -/
def closed (marks : List Mark) : List Position :=
  marks.filterMap fun
    | .opens _ => none
    | .closes position => some position

end ProgramTree
