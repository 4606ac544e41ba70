import ProgramTree.Fault
import ProgramTree.Tree.Basic

/-!
# Places in a tree

A step leads from a node to one of its children or to the node linked after it. Taking a step
leaves a frame behind, which is the tree around the node that was reached; the frames of a whole
path form a context with one hole. Filling the hole with the node that was reached gives the tree
back, and filling it with another node replaces just that part.
-/

namespace ProgramTree

/-- A step from a node to a child or to the node linked after it. -/
inductive Step where
  | left
  | right
  | operand
  | value
  | initializer
  | condition
  | thenBranch
  | elseBranch
  | body
  | next
  deriving DecidableEq

/-- The step that a path segment names. -/
def Step.ofName? : String → Option Step
  | "left" => some .left
  | "right" => some .right
  | "operand" => some .operand
  | "value" => some .value
  | "init" => some .initializer
  | "cond" => some .condition
  | "then" => some .thenBranch
  | "else" => some .elseBranch
  | "body" => some .body
  | "next" => some .next
  | _ => none

/-- A form with one child left out. -/
inductive Hole where
  | binaryLeft (operator : Operator) (right : Node)
  | binaryRight (operator : Operator) (left : Node)
  | unaryOperand (operator : Operator)
  | assignValue (name : String)
  | declareInitializer (name : String)
  | conditionalCondition (thenBranch : Node) (elseBranch : Option Node)
  | conditionalThen (condition : Node) (elseBranch : Option Node)
  | conditionalElse (condition thenBranch : Node)
  | loopCondition (body : Node)
  | loopBody (condition : Node)
  | blockBody

/-- Put a child where one was left out. -/
def Hole.fill (child : Node) : Hole → Form
  | .binaryLeft operator right => .binary operator child right
  | .binaryRight operator left => .binary operator left child
  | .unaryOperand operator => .unary operator child
  | .assignValue name => .assign name child
  | .declareInitializer name => .declare name (some child)
  | .conditionalCondition thenBranch elseBranch => .conditional child thenBranch elseBranch
  | .conditionalThen condition elseBranch => .conditional condition child elseBranch
  | .conditionalElse condition thenBranch => .conditional condition thenBranch (some child)
  | .loopCondition body => .loop child body
  | .loopBody condition => .loop condition child
  | .blockBody => .block (some child)

/-- The tree around a node that one step leads to. -/
inductive Frame where
  /-- The node is a child of a form that has the given rest linked after it. -/
  | within (hole : Hole) (rest : Option Node)
  /-- The node is linked after an entry. -/
  | after (head : Form)

/-- Put a node into the place that a frame surrounds. -/
def Frame.fill (node : Node) : Frame → Node
  | .within hole rest => .cons (hole.fill node) rest
  | .after head => .link head node

/-- A tree with one place left out, as the frames around that place, innermost first. -/
abbrev Context := List Frame

/-- Put a node into the place that was left out. -/
def Context.fill (context : Context) (node : Node) : Node :=
  context.foldl (fun inner frame => frame.fill inner) node

/-- The number of child steps from the root of a context to its place. -/
def Context.depth (context : Context) : Nat :=
  context.countP fun frame => frame matches .within _ _

/-- The child that a step leads to, with the form around it. -/
def Form.child? : Form → Step → Option (Hole × Node)
  | .binary operator left right, .left => some (.binaryLeft operator right, left)
  | .binary operator left right, .right => some (.binaryRight operator left, right)
  | .unary operator operand, .operand => some (.unaryOperand operator, operand)
  | .assign name value, .value => some (.assignValue name, value)
  | .declare name (some initializer), .initializer =>
    some (.declareInitializer name, initializer)
  | .conditional condition thenBranch elseBranch, .condition =>
    some (.conditionalCondition thenBranch elseBranch, condition)
  | .conditional condition thenBranch elseBranch, .thenBranch =>
    some (.conditionalThen condition elseBranch, thenBranch)
  | .conditional condition thenBranch (some elseBranch), .elseBranch =>
    some (.conditionalElse condition thenBranch, elseBranch)
  | .loop condition body, .condition => some (.loopCondition body, condition)
  | .loop condition body, .body => some (.loopBody condition, body)
  | .block (some body), .body => some (.blockBody, body)
  | _, _ => none

/-- The children that a form owns, in order, each with the step that leads to it. -/
def Form.owned : Form → List (Step × Node)
  | .integer _ => []
  | .reference _ => []
  | .binary _ left right => [(.left, left), (.right, right)]
  | .unary _ operand => [(.operand, operand)]
  | .assign _ value => [(.value, value)]
  | .declare _ initializer => initializer.toList.map (Step.initializer, ·)
  | .conditional condition thenBranch elseBranch =>
    [(.condition, condition), (.thenBranch, thenBranch)] ++
      elseBranch.toList.map (Step.elseBranch, ·)
  | .loop condition body => [(.condition, condition), (.body, body)]
  | .block body => body.toList.map (Step.body, ·)

/-- An owned child is a part of the form. -/
theorem Form.sizeOf_lt_of_mem_owned {form : Form} {step : Step} {child : Node}
    (h : (step, child) ∈ form.owned) : sizeOf child < sizeOf form := by
  cases form <;>
    simp only [Form.owned, List.mem_append, List.mem_cons, List.not_mem_nil, List.mem_map,
      Option.mem_toList, Prod.mk.injEq] at h <;>
    grind

/-- The node that a step leads to, with the frame around it. -/
def Node.descend? (node : Node) : Step → Option (Frame × Node)
  | .next => node.next?.map fun next => (.after node.head, next)
  | step => (node.head.child? step).map fun (hole, child) => (.within hole node.next?, child)

/-- Follow the named steps from a node that stands in a context.

A segment is looked at only once the segments before it have led to a node. -/
def Node.walkFrom (context : Context) (node : Node) :
    List String → Except Fault (Context × Node)
  | [] => .ok (context, node)
  | segment :: segments =>
    match (Step.ofName? segment).bind node.descend? with
    | none => .error (.badPath segment)
    | some (frame, inner) => inner.walkFrom (frame :: context) segments

/-- Follow the named steps from a node to the node they lead to and the context around it. -/
def Node.walk (node : Node) (path : List String) : Except Fault (Context × Node) :=
  node.walkFrom [] path

/-- Filling the place around a child with the child gives the form back. -/
theorem Form.fill_of_child? {form : Form} {step : Step} {hole : Hole} {child : Node}
    (h : form.child? step = some (hole, child)) : hole.fill child = form := by
  unfold Form.child? at h
  split at h <;> simp only [Option.some.injEq, Prod.mk.injEq, reduceCtorEq] at h
  all_goals
    obtain ⟨rfl, rfl⟩ := h
    rfl

/-- Filling a frame with the node that the step reached gives the node back. -/
theorem Node.fill_of_descend? {node inner : Node} {step : Step} {frame : Frame}
    (h : node.descend? step = some (frame, inner)) : frame.fill inner = node := by
  unfold Node.descend? at h
  split at h
  · obtain ⟨next, hnext, hpair⟩ := Option.map_eq_some_iff.mp h
    obtain ⟨rfl, rfl⟩ := Prod.mk.inj hpair
    have whole := node.cons_head_next?
    rw [hnext] at whole
    exact whole
  · obtain ⟨⟨hole, child⟩, hchild, hpair⟩ := Option.map_eq_some_iff.mp h
    obtain ⟨rfl, rfl⟩ := Prod.mk.inj hpair
    show Chain.cons (hole.fill child) node.next? = node
    rw [Form.fill_of_child? hchild, Chain.cons_head_next?]

/-- Following a path and filling the context with the node it reached gives the tree back. -/
theorem Node.fill_of_walkFrom {path : List String} {outer context : Context} {node inner : Node}
    (h : node.walkFrom outer path = .ok (context, inner)) :
    context.fill inner = outer.fill node := by
  induction path generalizing outer node with
  | nil =>
    obtain ⟨rfl, rfl⟩ := Prod.mk.inj (Except.ok.inj h)
    rfl
  | cons segment segments ih =>
    unfold Node.walkFrom at h
    split at h
    · cases h
    · rename_i frame child hstep
      obtain ⟨step, -, hdescend⟩ := Option.bind_eq_some_iff.mp hstep
      rw [ih h]
      show outer.fill (frame.fill child) = outer.fill node
      rw [Node.fill_of_descend? hdescend]

/-- The node that a path reaches fills its context to the whole tree. -/
theorem Node.fill_of_walk {path : List String} {context : Context} {node inner : Node}
    (h : node.walk path = .ok (context, inner)) : context.fill inner = node :=
  Node.fill_of_walkFrom h

end ProgramTree
