import ProgramTree.Tree.Context

/-!
# Paths and contexts

A context remembers the steps that lead to its place, so it has a path of its own. Following a
path succeeds exactly when the tree is a context of that path filled with the node that is
reached: no tree has two ways to stand around the end of a path, and every context is reached in
whatever it is filled with.

The depth of a context is the number of segments of its path that lead to a child. Segments that
follow a link do not count, and a context made of links alone puts entries in front of a chain.
-/

namespace ProgramTree

/-- The path segment that names a step. -/
def Step.name : Step → String
  | .left => "left"
  | .right => "right"
  | .operand => "operand"
  | .value => "value"
  | .initializer => "init"
  | .condition => "cond"
  | .thenBranch => "then"
  | .elseBranch => "else"
  | .body => "body"
  | .next => "next"

/-- The name of a step is read as that step. -/
theorem Step.ofName?_name (step : Step) : Step.ofName? step.name = some step := by
  cases step <;> rfl

/-- A segment that is read as a step is the name of that step. -/
theorem Step.eq_name_of_ofName? {segment : String} {step : Step}
    (h : Step.ofName? segment = some step) : segment = step.name := by
  unfold Step.ofName? at h
  split at h <;> cases h <;> rfl

/-- The step that leads to the child that was left out. -/
def Hole.step : Hole → Step
  | .binaryLeft _ _ => .left
  | .binaryRight _ _ => .right
  | .unaryOperand _ => .operand
  | .assignValue _ => .value
  | .declareInitializer _ => .initializer
  | .conditionalCondition _ _ => .condition
  | .conditionalThen _ _ => .thenBranch
  | .conditionalElse _ _ => .elseBranch
  | .loopCondition _ => .condition
  | .loopBody _ => .body
  | .blockBody => .body

/-- The step to a child does not follow a link. -/
theorem Hole.step_ne_next (hole : Hole) : hole.step ≠ .next := by
  cases hole <;> simp [Hole.step]

/-- The step of a hole leads to the child that fills it. -/
theorem Hole.child?_fill (hole : Hole) (child : Node) :
    (hole.fill child).child? hole.step = some (hole, child) := by
  cases hole <;> rfl

/-- A child is reached by the step of the hole that it leaves. -/
theorem Form.step_of_child? {form : Form} {step : Step} {hole : Hole} {child : Node}
    (h : form.child? step = some (hole, child)) : hole.step = step := by
  unfold Form.child? at h
  split at h <;> simp only [Option.some.injEq, Prod.mk.injEq, reduceCtorEq] at h
  all_goals
    obtain ⟨rfl, rfl⟩ := h
    rfl

/-- A form owns the child that fills one of its places, under the step of that place. -/
theorem Form.mem_owned_iff {form : Form} {step : Step} {child : Node} :
    (step, child) ∈ form.owned ↔ ∃ hole : Hole, hole.fill child = form ∧ hole.step = step := by
  constructor
  · intro h
    cases form with
    | integer value => simp [Form.owned] at h
    | reference name => simp [Form.owned] at h
    | binary operator left right =>
      simp only [Form.owned, List.mem_cons, Prod.mk.injEq, List.not_mem_nil, or_false] at h
      rcases h with ⟨rfl, rfl⟩ | ⟨rfl, rfl⟩
      · exact ⟨.binaryLeft operator right, rfl, rfl⟩
      · exact ⟨.binaryRight operator left, rfl, rfl⟩
    | unary operator operand =>
      simp only [Form.owned, List.mem_singleton, Prod.mk.injEq] at h
      exact ⟨.unaryOperand operator, h.2 ▸ rfl, h.1.symm⟩
    | assign name value =>
      simp only [Form.owned, List.mem_singleton, Prod.mk.injEq] at h
      exact ⟨.assignValue name, h.2 ▸ rfl, h.1.symm⟩
    | declare name initializer =>
      simp only [Form.owned, List.mem_map, Option.mem_toList, Prod.mk.injEq] at h
      obtain ⟨_, rfl, rfl, rfl⟩ := h
      exact ⟨.declareInitializer name, rfl, rfl⟩
    | conditional condition thenBranch elseBranch =>
      simp only [Form.owned, List.mem_append, List.mem_cons, Prod.mk.injEq, List.not_mem_nil,
        or_false, List.mem_map, Option.mem_toList] at h
      rcases h with (⟨rfl, rfl⟩ | ⟨rfl, rfl⟩) | ⟨_, rfl, rfl, rfl⟩
      · exact ⟨.conditionalCondition thenBranch elseBranch, rfl, rfl⟩
      · exact ⟨.conditionalThen condition elseBranch, rfl, rfl⟩
      · exact ⟨.conditionalElse condition thenBranch, rfl, rfl⟩
    | loop condition body =>
      simp only [Form.owned, List.mem_cons, Prod.mk.injEq, List.not_mem_nil, or_false] at h
      rcases h with ⟨rfl, rfl⟩ | ⟨rfl, rfl⟩
      · exact ⟨.loopCondition body, rfl, rfl⟩
      · exact ⟨.loopBody condition, rfl, rfl⟩
    | block body =>
      simp only [Form.owned, List.mem_map, Option.mem_toList, Prod.mk.injEq] at h
      obtain ⟨_, rfl, rfl, rfl⟩ := h
      exact ⟨.blockBody, rfl, rfl⟩
  · rintro ⟨hole, rfl, rfl⟩
    cases hole <;> simp [Hole.fill, Hole.step, Form.owned]

/-- The step that leads to the place that a frame surrounds. -/
def Frame.step : Frame → Step
  | .within hole _ => hole.step
  | .after _ => .next

/-- A step other than to the linked node leads to a child of the first entry. -/
theorem Node.descend?_of_ne_next (node : Node) {step : Step} (h : step ≠ .next) :
    node.descend? step =
      (node.head.child? step).map fun (hole, child) => (.within hole node.next?, child) := by
  unfold Node.descend?
  split
  · exact absurd rfl h
  · rfl

/-- The step of a frame leads to the node that fills it. -/
theorem Frame.descend?_fill (frame : Frame) (node : Node) :
    Node.descend? (frame.fill node) frame.step = some (frame, node) := by
  cases frame with
  | within hole rest =>
    rw [Frame.fill, Frame.step, Node.descend?_of_ne_next _ hole.step_ne_next, Chain.head_cons,
      Chain.next?_cons, hole.child?_fill]
    rfl
  | after head => rfl

/-- A node is reached by the step of the frame around it. -/
theorem Node.step_of_descend? {node inner : Node} {step : Step} {frame : Frame}
    (h : node.descend? step = some (frame, inner)) : frame.step = step := by
  by_cases hstep : step = .next
  · subst hstep
    obtain ⟨next, -, hpair⟩ := Option.map_eq_some_iff.mp h
    rw [← (Prod.mk.inj hpair).1, Frame.step]
  · rw [Node.descend?_of_ne_next node hstep] at h
    obtain ⟨⟨hole, child⟩, hchild, hpair⟩ := Option.map_eq_some_iff.mp h
    rw [← (Prod.mk.inj hpair).1]
    exact Form.step_of_child? hchild

/-- The path from the root of a context to its place. -/
def Context.path : Context → List String
  | [] => []
  | frame :: outer => Context.path outer ++ [frame.step.name]

/-- A frame is filled before the frames around it. -/
theorem Context.fill_cons (frame : Frame) (outer : Context) (node : Node) :
    Context.fill (frame :: outer) node = outer.fill (frame.fill node) := rfl

/-- A segment that leads to a node leads the walk on from there. -/
theorem Node.walkFrom_cons {node inner : Node} {frame : Frame} {segment : String}
    (h : (Step.ofName? segment).bind node.descend? = some (frame, inner)) (outer : Context)
    (segments : List String) :
    node.walkFrom outer (segment :: segments) = inner.walkFrom (frame :: outer) segments := by
  rw [Node.walkFrom, h]

/-- Following a joined path follows one part after the other. -/
theorem Node.walkFrom_append {node inner : Node} {outer context : Context}
    {first : List String} (h : node.walkFrom outer first = .ok (context, inner))
    (second : List String) :
    node.walkFrom outer (first ++ second) = inner.walkFrom context second := by
  induction first generalizing node outer with
  | nil =>
    obtain ⟨rfl, rfl⟩ := Prod.mk.inj (Except.ok.inj h)
    rfl
  | cons segment segments ih =>
    unfold Node.walkFrom at h
    split at h
    · cases h
    · rename_i frame child hstep
      rw [List.cons_append, Node.walkFrom_cons hstep]
      exact ih h

/-- The path of a context leads to the node that fills it. -/
theorem Node.walkFrom_path (context outer : Context) (node : Node) :
    Node.walkFrom outer (context.fill node) context.path = .ok (context ++ outer, node) := by
  induction context generalizing node with
  | nil => rfl
  | cons frame rest ih =>
    have hstep : (Step.ofName? frame.step.name).bind (frame.fill node).descend? =
        some (frame, node) := by
      rw [Step.ofName?_name, Option.bind_some, Frame.descend?_fill]
    rw [Context.path, Context.fill_cons, Node.walkFrom_append (ih (frame.fill node)),
      Node.walkFrom_cons hstep]
    rfl

/-- A path that leads to a node is that of the context around it. -/
theorem Node.path_of_walkFrom {path : List String} {outer context : Context} {node inner : Node}
    (h : node.walkFrom outer path = .ok (context, inner)) :
    context.path = outer.path ++ path := by
  induction path generalizing outer node with
  | nil =>
    obtain ⟨rfl, rfl⟩ := Prod.mk.inj (Except.ok.inj h)
    rw [List.append_nil]
  | cons segment segments ih =>
    unfold Node.walkFrom at h
    split at h
    · cases h
    · rename_i frame child hstep
      obtain ⟨step, hname, hdescend⟩ := Option.bind_eq_some_iff.mp hstep
      rw [ih h, Context.path, Node.step_of_descend? hdescend, ← Step.eq_name_of_ofName? hname,
        List.append_assoc, List.singleton_append]

/-- Following a path succeeds when the tree is a context of that path around the node that is
reached. -/
theorem Node.walk_eq_ok_iff {path : List String} {context : Context} {node inner : Node} :
    node.walk path = .ok (context, inner) ↔ path = context.path ∧ node = context.fill inner := by
  constructor
  · intro h
    exact ⟨(Node.path_of_walkFrom h).symm, (Node.fill_of_walk h).symm⟩
  · rintro ⟨rfl, rfl⟩
    rw [Node.walk, Node.walkFrom_path, List.append_nil]

/-- Only the step that follows a link has its name. -/
theorem Step.name_eq_next_iff (step : Step) : step.name = "next" ↔ step = .next := by
  cases step <;> decide

/-- The depth of a context counts the segments of its path that lead to a child. -/
theorem Context.depth_eq_countP_path (context : Context) :
    context.depth = context.path.countP (· ≠ "next") := by
  induction context with
  | nil => rfl
  | cons frame outer ih =>
    rw [Context.path, List.countP_append, ← ih, Context.depth, List.countP_cons]
    cases frame with
    | within hole rest =>
      have hstep : hole.step.name ≠ "next" := mt hole.step.name_eq_next_iff.mp hole.step_ne_next
      simp [Context.depth, Frame.step, hstep]
    | after head => rfl

/-! ## Following links -/

/-- A context of links places its entries in front of the node that fills it. -/
theorem Context.fill_map_after (entries : List Form) (node : Node) :
    Context.fill (entries.map .after) node = node.linkBefore entries := by
  rw [Context.fill, List.foldl_map]
  rfl

/-- The path of a context of links follows one link for each entry. -/
theorem Context.path_map_after (entries : List Form) :
    Context.path (entries.map .after) = List.replicate entries.length "next" := by
  induction entries with
  | nil => rfl
  | cons entry entries ih =>
    rw [List.map_cons, Context.path, ih, List.length_cons, List.replicate_succ']
    rfl

end ProgramTree
