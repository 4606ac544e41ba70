import Mathlib.Order.Bounds.Basic
import ProgramTree.Proofs.Composition
import ProgramTree.Tree.Measure

/-!
# The height of a tree is the depth of its deepest place

A place is as deep as the number of child steps on the path to it. Filling a place gives a tree at
least as high as the place is deep, because every frame around it that leaves a child out adds one.
Conversely a tree that is not flat has an entry with a child that is lower by one, and going on
with that child leads to a place as deep as the tree is high.

Links add nothing: appending to a chain, wherever it stands in a tree, raises the tree only if what
is appended is higher than the chain.
-/

namespace ProgramTree

/-! ## No place is deeper -/

/-- A form is higher than any of its children. -/
theorem Hole.height_lt_height_fill (hole : Hole) (child : Node) :
    child.height < (hole.fill child).height := by
  cases hole <;> simp only [Hole.fill, Form.height, Node.reachOptional] <;> omega

/-- An owned child is lower than the form. -/
theorem Form.height_lt_of_mem_owned {form : Form} {branch : Step × Node}
    (h : branch ∈ form.owned) : branch.2.height < form.height := by
  obtain ⟨hole, hfill, -⟩ := Form.mem_owned_iff.mp h
  rw [← hfill]
  exact hole.height_lt_height_fill branch.2

/-- The height of a form in front of an optional chain is at least that of the form. -/
theorem Node.height_le_height_cons (head : Form) (rest : Option Node) :
    head.height ≤ Node.height (Chain.cons head rest) := by
  cases rest with
  | none => exact Nat.le_refl head.height
  | some next =>
    rw [Chain.cons, Node.height]
    exact Nat.le_max_left _ _

/-- The first entry is no higher than the node. -/
theorem Node.height_head_le (node : Node) : node.head.height ≤ node.height := by
  have hcons := Node.height_le_height_cons node.head node.next?
  rwa [Chain.cons_head_next?] at hcons

/-- What is linked after a node is no higher than the node. -/
theorem Node.height_le_of_next? {node next : Node} (h : node.next? = some next) :
    next.height ≤ node.height := by
  rw [← node.cons_head_next?, h, Chain.cons, Node.height]
  exact Nat.le_max_right _ _

/-- A frame adds its child steps to the height of the node that fills it. -/
theorem Frame.depth_add_height_le (frame : Frame) (node : Node) :
    frame.depth + node.height ≤ Node.height (frame.fill node) := by
  cases frame with
  | within hole rest =>
    have hchild := hole.height_lt_height_fill node
    have hform := Node.height_le_height_cons (hole.fill node) rest
    rw [Frame.fill, Frame.depth]
    omega
  | after head =>
    rw [Frame.fill, Frame.depth, Node.height, Nat.zero_add]
    exact Nat.le_max_right _ _

/-- A filled context is at least as high as its place is deep and what fills it is high. -/
theorem Context.depth_add_height_le (context : Context) (node : Node) :
    context.depth + node.height ≤ Node.height (context.fill node) := by
  induction context generalizing node with
  | nil => exact Nat.le_of_eq (Nat.zero_add node.height)
  | cons frame outer ih =>
    have hframe := frame.depth_add_height_le node
    have houter := ih (frame.fill node)
    rw [Context.depth_cons, Context.fill_cons]
    omega

/-! ## Some place is as deep -/

/-- A form that is not flat has a child that is lower by one. -/
theorem Form.exists_hole_of_height {form : Form} {height : Nat} (h : form.height = height + 1) :
    ∃ (hole : Hole) (child : Node), hole.fill child = form ∧ child.height = height := by
  cases form with
  | integer value => simp [Form.height] at h
  | reference name => simp [Form.height] at h
  | binary operator left right =>
    rw [Form.height] at h
    by_cases hmax : Node.height left = height
    · exact ⟨.binaryLeft operator right, left, rfl, hmax⟩
    · exact ⟨.binaryRight operator left, right, rfl, by omega⟩
  | unary operator operand =>
    rw [Form.height] at h
    exact ⟨.unaryOperand operator, operand, rfl, by omega⟩
  | assign name value =>
    rw [Form.height] at h
    exact ⟨.assignValue name, value, rfl, by omega⟩
  | declare name initializer =>
    cases initializer with
    | none => simp [Form.height, Node.reachOptional] at h
    | some node =>
      rw [Form.height, Node.reachOptional] at h
      exact ⟨.declareInitializer name, node, rfl, by omega⟩
  | conditional condition thenBranch elseBranch =>
    by_cases hcondition : Node.height condition = height
    · exact ⟨.conditionalCondition thenBranch elseBranch, condition, rfl, hcondition⟩
    by_cases hthen : Node.height thenBranch = height
    · exact ⟨.conditionalThen condition elseBranch, thenBranch, rfl, hthen⟩
    cases elseBranch with
    | none =>
      rw [Form.height, Node.reachOptional] at h
      omega
    | some node =>
      rw [Form.height, Node.reachOptional] at h
      exact ⟨.conditionalElse condition thenBranch, node, rfl, by omega⟩
  | loop condition body =>
    rw [Form.height] at h
    by_cases hmax : Node.height condition = height
    · exact ⟨.loopCondition body, condition, rfl, hmax⟩
    · exact ⟨.loopBody condition, body, rfl, by omega⟩
  | block body =>
    cases body with
    | none => simp [Form.height, Node.reachOptional] at h
    | some node =>
      rw [Form.height, Node.reachOptional] at h
      exact ⟨.blockBody, node, rfl, by omega⟩

/-- Some entry of a chain is as high as the chain, and only links lead to it. -/
theorem Node.exists_highest_entry (node : Node) :
    ∃ (context : Context) (inner : Node), context.fill inner = node ∧ context.depth = 0 ∧
      inner.head.height = node.height := by
  induction node with
  | last head => exact ⟨[], .last head, rfl, rfl, rfl⟩
  | link head next ih =>
    by_cases hmax : Node.height next ≤ head.height
    · refine ⟨[], .link head next, rfl, rfl, ?_⟩
      rw [Node.height, Nat.max_eq_left hmax]
      rfl
    · obtain ⟨context, inner, hfill, hdepth, hheight⟩ := ih
      refine ⟨context ++ [.after head], inner, ?_, ?_, ?_⟩
      · rw [Context.fill, List.foldl_append]
        exact congrArg (Chain.link head) hfill
      · rw [Context.depth, List.countP_append]
        exact hdepth
      · rw [hheight, Node.height, Nat.max_eq_right (by omega)]

/-- Some place of a tree is as deep as the tree is high. -/
theorem Node.exists_deepest_place (node : Node) :
    ∃ (context : Context) (inner : Node), context.fill inner = node ∧
      context.depth = node.height := by
  -- The induction is on the height: each round goes down to a child that is lower by one.
  induction hheight : node.height generalizing node with
  | zero => exact ⟨[], node, rfl, rfl⟩
  | succ height ih =>
    obtain ⟨links, entry, hlinks, hflat, hentry⟩ := Node.exists_highest_entry node
    obtain ⟨hole, child, hhole, hchild⟩ := Form.exists_hole_of_height (hentry.trans hheight)
    obtain ⟨context, inner, hfill, hdepth⟩ := ih child hchild
    refine ⟨context ++ (.within hole entry.next? :: links), inner, ?_, ?_⟩
    · rw [Context.fill, List.foldl_append]
      change Context.fill links (Frame.fill (context.fill inner) (.within hole entry.next?)) = node
      rw [hfill, Frame.fill, hhole, Chain.cons_head_next?, hlinks]
    · rw [Context.depth, List.countP_append]
      change context.depth + Context.depth (.within hole entry.next? :: links) = height + 1
      rw [Context.depth_cons, hdepth, hflat]
      rfl

/-- The height of a tree is the greatest number of child steps on a path to one of its nodes. -/
theorem Node.isGreatest_height (node : Node) :
    IsGreatest {depth | ∃ path context inner, node.walk path = .ok (context, inner) ∧
      depth = path.countP (· ≠ "next")} node.height := by
  constructor
  · obtain ⟨context, inner, hfill, hdepth⟩ := Node.exists_deepest_place node
    refine ⟨context.path, context, inner, Node.walk_eq_ok_iff.mpr ⟨rfl, hfill.symm⟩, ?_⟩
    rw [← hdepth, context.depth_eq_countP_path]
  · rintro depth ⟨path, context, inner, hwalk, rfl⟩
    obtain ⟨rfl, rfl⟩ := Node.walk_eq_ok_iff.mp hwalk
    have hle := context.depth_add_height_le inner
    rw [context.depth_eq_countP_path] at hle
    omega

/-! ## Longer chains are not higher -/

/-- A chain with another appended to it is as high as the higher of the two. -/
theorem Node.height_append (first second : Node) :
    Node.height (first.append second) = max first.height second.height := by
  induction first with
  | last head =>
    change Node.height (.link head second) = _
    rw [Node.height, Node.height]
  | link head next ih =>
    rw [Chain.append_link, Node.height, ih, Node.height, Nat.max_assoc]

/-- What fills a frame matters to the height only by its own height. -/
theorem Frame.height_fill_congr (frame : Frame) {first second : Node}
    (h : first.height = second.height) :
    Node.height (frame.fill first) = Node.height (frame.fill second) := by
  cases frame with
  | within hole rest =>
    have hform : (hole.fill first).height = (hole.fill second).height := by
      cases hole <;> simp only [Hole.fill, Form.height, Node.reachOptional, h]
    cases rest <;> simp only [Frame.fill, Chain.cons, Node.height, hform]
  | after head => simp only [Frame.fill, Node.height, h]

/-- What fills a context matters to the height only by its own height. -/
theorem Context.height_fill_congr (context : Context) {first second : Node}
    (h : first.height = second.height) :
    Node.height (context.fill first) = Node.height (context.fill second) := by
  induction context generalizing first second with
  | nil => exact h
  | cons frame outer ih =>
    rw [Context.fill_cons, Context.fill_cons]
    exact ih (frame.height_fill_congr h)

end ProgramTree
