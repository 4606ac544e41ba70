import ProgramTree.Proofs.Paths
import ProgramTree.Proofs.PrintedOutline

/-!
# Printing a tree around a place

A context has lines of its own before and after its place. The outline of a filled context is the
outline of the node that fills it, moved as deep as the place, between these lines. One frame is
considered at a time, and the frames of a context add up from the place outwards.

So the printed text of a filled context is that of the node between two texts that do not depend
on the node. Replacing the node, or appending to it, changes nothing outside its own part.
-/

namespace ProgramTree

/-! ## The lines around a place -/

/-- The label of a form with one child left out; the child does not show in it. -/
def Hole.label (hole : Hole) : String :=
  (hole.fill (.block none)).label

/-- The lines of a form before the child that was left out. -/
def Hole.linesBefore (hole : Hole) : List Line :=
  ⟨0, hole.label⟩ ::
    match hole with
    | .binaryRight _ left => deepen left.outline
    | .conditionalThen condition _ => deepen condition.outline
    | .conditionalElse condition thenBranch =>
      deepen condition.outline ++ deepen thenBranch.outline ++ [⟨0, elseLabel⟩]
    | .loopBody condition => deepen condition.outline
    | _ => []

/-- The lines of a form after the child that was left out. -/
def Hole.linesAfter : Hole → List Line
  | .binaryLeft _ right => deepen right.outline
  | .conditionalCondition thenBranch elseBranch =>
    deepen thenBranch.outline ++ elseLines elseBranch ++ deepen (Node.outlineOptional elseBranch)
  | .conditionalThen _ elseBranch =>
    elseLines elseBranch ++ deepen (Node.outlineOptional elseBranch)
  | .loopCondition body => deepen body.outline
  | _ => []

/-- The number of child steps to the place that a frame surrounds. -/
def Frame.depth : Frame → Nat
  | .within _ _ => 1
  | .after _ => 0

/-- The lines that a frame shows before its place. -/
def Frame.linesBefore : Frame → List Line
  | .within hole _ => hole.linesBefore
  | .after head => head.outline

/-- The lines that a frame shows after its place. -/
def Frame.linesAfter : Frame → List Line
  | .within hole rest => hole.linesAfter ++ Node.outlineOptional rest
  | .after _ => []

/-- The lines that a context shows before its place. -/
def Context.linesBefore : Context → List Line
  | [] => []
  | frame :: outer => Context.linesBefore outer ++ deepenBy (Context.depth outer) frame.linesBefore

/-- The lines that a context shows after its place. -/
def Context.linesAfter : Context → List Line
  | [] => []
  | frame :: outer => deepenBy (Context.depth outer) frame.linesAfter ++ Context.linesAfter outer

/-! ## The outline of a filled context -/

/-- Moving joined outlines moves each of them. -/
theorem deepenBy_append (levels : Nat) (first second : List Line) :
    deepenBy levels (first ++ second) = deepenBy levels first ++ deepenBy levels second :=
  List.map_append

/-- Moving an outline by no levels changes nothing. -/
theorem deepenBy_zero (outline : List Line) : deepenBy 0 outline = outline := by
  simp [deepenBy]

/-- Moving an outline twice moves it as far as both together. -/
theorem deepenBy_deepenBy (outer inner : Nat) (outline : List Line) :
    deepenBy outer (deepenBy inner outline) = deepenBy (outer + inner) outline := by
  simp [deepenBy, Nat.add_assoc]

/-- The outline of a form in front of an optional chain joins both outlines. -/
theorem Node.outline_cons (head : Form) (rest : Option Node) :
    Node.outline (Chain.cons head rest) = head.outline ++ Node.outlineOptional rest := by
  cases rest with
  | none => simp [Chain.cons, Node.outline, Node.outlineOptional]
  | some next => simp [Chain.cons, Node.outline, Node.outlineOptional]

/-- The outline of a form is that of one child, one level deeper, between the lines of the rest. -/
theorem Hole.outline_fill (hole : Hole) (child : Node) :
    (hole.fill child).outline =
      hole.linesBefore ++ deepenBy 1 child.outline ++ hole.linesAfter := by
  rw [← deepen_eq_deepenBy]
  cases hole with
  | conditionalElse condition thenBranch =>
    simp [Hole.fill, Hole.linesBefore, Hole.linesAfter, Hole.label, Form.outline, Form.label,
      elseLines, Node.outlineOptional]
  | _ =>
    simp [Hole.fill, Hole.linesBefore, Hole.linesAfter, Hole.label, Form.outline, Form.label,
      Node.outlineOptional]

/-- The outline of a filled frame is that of the node, as deep as its place, between the lines
of the frame. -/
theorem Frame.outline_fill (frame : Frame) (node : Node) :
    Node.outline (frame.fill node) =
      frame.linesBefore ++ deepenBy frame.depth node.outline ++ frame.linesAfter := by
  cases frame with
  | within hole rest =>
    rw [Frame.fill, Node.outline_cons, hole.outline_fill, List.append_assoc]
    rfl
  | after head =>
    rw [Frame.fill, Node.outline, Frame.depth, deepenBy_zero, Frame.linesAfter, List.append_nil]
    rfl

/-- A frame adds its child steps to those of the frames around it. -/
theorem Context.depth_cons (frame : Frame) (outer : Context) :
    Context.depth (frame :: outer) = outer.depth + frame.depth := by
  rw [Context.depth, List.countP_cons]
  cases frame <;> rfl

/-- The outline of a filled context is that of the node, as deep as its place, between the lines
of the context. -/
theorem Context.outline_fill (context : Context) (node : Node) :
    Node.outline (context.fill node) =
      context.linesBefore ++ deepenBy context.depth node.outline ++ context.linesAfter := by
  induction context generalizing node with
  | nil =>
    show node.outline = [] ++ deepenBy 0 node.outline ++ []
    rw [deepenBy_zero, List.nil_append, List.append_nil]
  | cons frame outer ih =>
    -- The innermost frame is filled first, so its lines end up nearest to the place.
    rw [Context.fill_cons, ih, frame.outline_fill, deepenBy_append, deepenBy_append,
      deepenBy_deepenBy, ← Context.depth_cons, Context.linesBefore, Context.linesAfter]
    simp only [List.append_assoc]

/-- Around an alternative stand the conditional, its other children and the line before it. -/
example :
    let context : Context :=
      [.within (.conditionalElse (.reference "c") (.block none)) (some (.integer 1))]
    context.linesBefore = [⟨0, "If"⟩, ⟨1, "Var: c"⟩, ⟨1, "Block"⟩, ⟨0, "Else"⟩] ∧
      context.linesAfter = [⟨0, "Int: 1"⟩] := by
  decide

/-! ## The text of a filled context -/

/-- The place of a context can be reached without passing the greatest level if the lines before
it fit, because each child stands below the line of its parent. -/
theorem Context.depth_le_of_linesFit {level : Nat} {context : Context}
    (h : LinesFit level context.linesBefore) :
    context.depth = 0 ∨ level + context.depth ≤ levelLimit := by
  induction context with
  | nil => exact .inl rfl
  | cons frame outer ih =>
    rw [Context.linesBefore, linesFit_append, linesFit_deepenBy] at h
    rw [Context.depth_cons]
    cases frame with
    | within hole rest =>
      -- The first line of the form around the place stands one level above it.
      have hparent : level + Context.depth outer < levelLimit := (linesFit_cons_base.mp h.2).1
      right
      rw [Frame.depth]
      omega
    | after head => exact ih h.1

/-- The level of the place of a context is that of its root and its depth. -/
theorem Context.toNat_level_add_depth {level : UInt64} {context : Context}
    (h : LinesFit level.toNat context.linesBefore) :
    (level + UInt64.ofNat context.depth).toNat = level.toNat + context.depth := by
  have hlevel := level.toNat_lt
  have hdepth : level.toNat + context.depth < 2 ^ 64 := by
    have hlimit : levelLimit < 2 ^ 64 := by decide
    rcases Context.depth_le_of_linesFit h with hzero | hle
    · omega
    · omega
  rw [UInt64.toNat_add, UInt64.toNat_ofNat', Nat.add_mod_mod]
  exact Nat.mod_eq_of_lt hdepth

/-- A filled context is printed when the lines around its place fit and the node is printed at
the level of the place; the text of the node then stands between those of the lines. -/
theorem render_fill_eq_ok_iff (context : Context) (node : Node) (level : UInt64)
    (text : String) :
    render (some (context.fill node)) level = .ok text ↔
      LinesFit level.toNat (context.linesBefore ++ context.linesAfter) ∧
        ∃ inner, render (some node) (level + UInt64.ofNat context.depth) = .ok inner ∧
          text = outlineText level.toNat context.linesBefore ++ inner ++
            outlineText level.toNat context.linesAfter := by
  simp only [render_eq_ok_iff, Node.outlineOptional, Context.outline_fill, linesFit_append,
    linesFit_deepenBy, outlineText_append, outlineText_deepenBy]
  constructor
  · rintro ⟨⟨⟨hbefore, hnode⟩, hafter⟩, rfl⟩
    rw [Context.toNat_level_add_depth hbefore]
    exact ⟨⟨hbefore, hafter⟩, _, ⟨hnode, rfl⟩, rfl⟩
  · rintro ⟨⟨hbefore, hafter⟩, inner, ⟨hnode, rfl⟩, rfl⟩
    rw [Context.toNat_level_add_depth hbefore] at hnode ⊢
    exact ⟨⟨⟨hbefore, hnode⟩, hafter⟩, rfl⟩

/-- A node whose outline joins two others is printed when both are, and then one text follows the
other. -/
theorem render_eq_ok_iff_of_outline_append {whole first second : Option Node}
    (h : Node.outlineOptional whole = Node.outlineOptional first ++ Node.outlineOptional second)
    (level : UInt64) (text : String) :
    render whole level = .ok text ↔
      ∃ shown added, render first level = .ok shown ∧ render second level = .ok added ∧
        text = shown ++ added := by
  simp only [render_eq_ok_iff, h, linesFit_append, outlineText_append]
  constructor
  · rintro ⟨⟨hfirst, hsecond⟩, rfl⟩
    exact ⟨_, _, ⟨hfirst, rfl⟩, ⟨hsecond, rfl⟩, rfl⟩
  · rintro ⟨_, _, ⟨hfirst, rfl⟩, ⟨hsecond, rfl⟩, rfl⟩
    exact ⟨⟨hfirst, hsecond⟩, rfl⟩

/-- Appended nodes are printed when both are, and then one text follows the other. -/
theorem render_append_eq_ok_iff (first second : Node) (level : UInt64) (text : String) :
    render (some (first.append second)) level = .ok text ↔
      ∃ shown added, render (some first) level = .ok shown ∧
        render (some second) level = .ok added ∧ text = shown ++ added := by
  apply render_eq_ok_iff_of_outline_append
  simp only [Node.outlineOptional, Node.outline_append]

/-- Outcomes of printing that give the same texts are the same: there is one way to fail. -/
theorem eq_of_ok_iff {first second : Except RenderError String}
    (h : ∀ text, first = .ok text ↔ second = .ok text) : first = second := by
  cases first with
  | ok text => exact ((h text).mp rfl).symm
  | error error =>
    cases second with
    | ok text => cases (h text).mpr rfl
    | error error' =>
      cases error
      cases error'
      rfl

/-- Printing is compositional: what fills a place shows in its own part of the text only.

A context is what a path leaves around the node it leads to, and its depth is the number of
segments of the path that lead to a child; the level of its place never wraps around while the
lines before the place can be printed. At each level a context has a text before and a text after
its place, and when filled it is printed as the text of the node at the level of the place between
these two. Nodes that print alike there can therefore be exchanged, and appending to the node adds
the text of what is appended after that of the node and nothing else. -/
theorem render_fill_is_compositional (context : Context) (level : UInt64) :
    (∀ (root inner : Node) (path : List String), root.walk path = .ok (context, inner) ↔
      path = context.path ∧ root = context.fill inner) ∧
    context.depth = context.path.countP (· ≠ "next") ∧
    (LinesFit level.toNat context.linesBefore →
      (level + UInt64.ofNat context.depth).toNat = level.toNat + context.depth) ∧
    ∃ before after : String,
      (∀ (node : Node) (text : String), render (some (context.fill node)) level = .ok text ↔
        LinesFit level.toNat (context.linesBefore ++ context.linesAfter) ∧
          ∃ inner, render (some node) (level + UInt64.ofNat context.depth) = .ok inner ∧
            text = before ++ inner ++ after) ∧
      (∀ first second : Node,
        render (some first) (level + UInt64.ofNat context.depth) =
            render (some second) (level + UInt64.ofNat context.depth) →
          render (some (context.fill first)) level =
            render (some (context.fill second)) level) ∧
      ∀ (node added : Node) (text : String),
        render (some (context.fill (node.append added))) level = .ok text ↔
          ∃ inner inserted,
            render (some node) (level + UInt64.ofNat context.depth) = .ok inner ∧
            render (some added) (level + UInt64.ofNat context.depth) = .ok inserted ∧
            render (some (context.fill node)) level = .ok (before ++ inner ++ after) ∧
            text = before ++ inner ++ inserted ++ after := by
  refine ⟨fun root inner path => Node.walk_eq_ok_iff, context.depth_eq_countP_path,
    Context.toNat_level_add_depth, outlineText level.toNat context.linesBefore,
    outlineText level.toNat context.linesAfter,
    fun node text => render_fill_eq_ok_iff context node level text, ?_, ?_⟩
  · intro first second halike
    apply eq_of_ok_iff
    intro text
    rw [render_fill_eq_ok_iff, render_fill_eq_ok_iff, halike]
  · intro node added text
    simp only [render_fill_eq_ok_iff, render_append_eq_ok_iff]
    constructor
    · rintro ⟨hfits, _, ⟨inner, inserted, hinner, hinserted, rfl⟩, rfl⟩
      refine ⟨inner, inserted, hinner, hinserted, ⟨hfits, inner, hinner, rfl⟩, ?_⟩
      simp only [String.append_assoc]
    · rintro ⟨inner, inserted, hinner, hinserted, ⟨hfits, -⟩, rfl⟩
      refine ⟨hfits, inner ++ inserted, ⟨inner, inserted, hinner, hinserted, rfl⟩, ?_⟩
      simp only [String.append_assoc]

end ProgramTree
