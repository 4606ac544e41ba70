import ProgramTree.Proofs.Composition
import ProgramTree.Proofs.MergedOutline
import ProgramTree.Proofs.TreeSums

/-!
# Lines of alternatives in an outline

The line before an alternative has a label of its own, which no form has. Going back from it over
deeper lines leads to the line of a conditional at the same depth. This passes from the children
of a form to the form, since its own line stands above all of theirs, and so holds of every tree
by induction. There are as many such lines as there are conditionals with an alternative.

Going on from the line of a conditional over deeper lines leads to the line before its alternative
if it has one. If it has none, the next line that is not deeper is that of another form or stands
above the conditional; which of the two depends on the context around it.
-/

namespace ProgramTree

/-- No form has the label of the line before an alternative. -/
theorem Form.label_ne_elseLabel (form : Form) : form.label ≠ elseLabel := by
  rw [Form.label_eq_labelOf]
  exact labelOf_ne_elseLabel _ _

/-- Only conditionals have an alternative. -/
theorem Form.label_of_alternative? {form : Form} {node : Node}
    (h : form.alternative? = some node) : form.label = "If" := by
  cases form with
  | conditional condition thenBranch elseBranch => rfl
  | _ => cases h

/-! ## Before the line of an alternative -/

/-- Before every line of an alternative stands the line of a conditional at the same depth, and
all lines between the two are deeper. -/
def AlternativesOpened (outline : List Line) : Prop :=
  ∀ (before after : List Line) (depth : Nat), outline = before ++ ⟨depth, elseLabel⟩ :: after →
    ∃ outer inner, before = outer ++ ⟨depth, "If"⟩ :: inner ∧ ∀ line ∈ inner, depth < line.depth

/-- A line with another label opens nothing and needs nothing. -/
theorem alternativesOpened_singleton {line : Line} (h : line.label ≠ elseLabel) :
    AlternativesOpened [line] := by
  intro before after depth hsplit
  cases before with
  | nil =>
    obtain ⟨rfl, -⟩ := List.cons.inj hsplit
    exact absurd rfl h
  | cons first before => simp at hsplit

/-- In joined outlines each line of an alternative keeps its conditional. -/
theorem AlternativesOpened.append {first second : List Line} (hfirst : AlternativesOpened first)
    (hsecond : AlternativesOpened second) : AlternativesOpened (first ++ second) := by
  intro before after depth hsplit
  rcases List.append_eq_append_iff.mp hsplit with ⟨middle, rfl, htail⟩ | ⟨middle, hhead, htail⟩
  · obtain ⟨outer, inner, rfl, hdeeper⟩ := hsecond middle after depth htail
    exact ⟨first ++ outer, inner, (List.append_assoc _ _ _).symm, hdeeper⟩
  · cases middle with
    | nil =>
      obtain ⟨outer, inner, hbefore, -⟩ := hsecond [] after depth htail.symm
      simp at hbefore
    | cons line middle =>
      obtain ⟨rfl, -⟩ := List.cons.inj htail
      exact hfirst before middle depth hhead

/-- In outlines joined over a list each line of an alternative keeps its conditional. -/
theorem alternativesOpened_flatMap {α : Type} {items : List α} {outline : α → List Line}
    (h : ∀ item ∈ items, AlternativesOpened (outline item)) :
    AlternativesOpened (items.flatMap outline) := by
  induction items with
  | nil =>
    intro before after depth hsplit
    simp at hsplit
  | cons item items ih =>
    rw [List.forall_mem_cons] at h
    exact h.1.append (ih h.2)

/-- Deepening moves a conditional and the line of its alternative together. -/
theorem AlternativesOpened.deepen {outline : List Line} (h : AlternativesOpened outline) :
    AlternativesOpened (deepen outline) := by
  intro before after depth hsplit
  obtain ⟨front, back, rfl, rfl, hback⟩ := List.map_eq_append_iff.mp hsplit
  obtain ⟨⟨base, label⟩, rest, rfl, hline, -⟩ := List.map_eq_cons_iff.mp hback
  obtain ⟨rfl, rfl⟩ := Line.mk.inj hline
  obtain ⟨outer, inner, rfl, hdeeper⟩ := h front rest base rfl
  refine ⟨ProgramTree.deepen outer, ProgramTree.deepen inner, List.map_append, ?_⟩
  intro line hline
  obtain ⟨original, horiginal, rfl⟩ := List.mem_map.mp hline
  exact Nat.succ_lt_succ (hdeeper original horiginal)

/-- A conditional opens the line of its own alternative, as the lines of its branches are
deeper. -/
theorem AlternativesOpened.conditional {branches : List Line} (h : AlternativesOpened branches)
    (hdeeper : ∀ line ∈ branches, 0 < line.depth) :
    AlternativesOpened (⟨0, "If"⟩ :: (branches ++ [⟨0, elseLabel⟩])) := by
  intro before after depth hsplit
  rcases List.eq_nil_or_concat after with rfl | ⟨rest, final, rfl⟩
  · -- The line at the end is the one that the conditional itself opens.
    have hends : (⟨0, "If"⟩ :: branches) ++ [(⟨0, elseLabel⟩ : Line)] =
        before ++ [⟨depth, elseLabel⟩] := hsplit
    obtain ⟨rfl, hline⟩ := List.append_inj' hends rfl
    obtain ⟨rfl, -⟩ := Line.mk.inj (List.cons.inj hline).1
    exact ⟨[], branches, rfl, hdeeper⟩
  · have hends : ([⟨0, "If"⟩] ++ branches) ++ [(⟨0, elseLabel⟩ : Line)] =
        (before ++ ⟨depth, elseLabel⟩ :: rest) ++ [final] := by simpa using hsplit
    have hopened : AlternativesOpened ([⟨0, "If"⟩] ++ branches) :=
      (alternativesOpened_singleton (by decide)).append h
    exact hopened before rest depth (List.append_inj' hends rfl).1

/-- The lines of a form are opened if those of its children are. -/
theorem Form.alternativesOpened_outline {form : Form}
    (h : ∀ child ∈ form.children, AlternativesOpened child.outline) :
    AlternativesOpened form.outline := by
  have hleading : AlternativesOpened
      (form.leadingChildren.flatMap fun child => deepen child.outline) :=
    alternativesOpened_flatMap fun child hchild =>
      (h child (List.mem_append_left _ hchild)).deepen
  have hdeeper : ∀ line ∈ form.leadingChildren.flatMap (fun child => deepen child.outline),
      0 < line.depth := by
    intro line hline
    obtain ⟨child, -, hmem⟩ := List.mem_flatMap.mp hline
    exact Nat.pos_of_ne_zero (depth_ne_zero_of_mem_deepen line hmem)
  rw [Form.outline_eq]
  cases halternative : form.alternative? with
  | none =>
    have hlabel : AlternativesOpened [⟨0, form.label⟩] :=
      alternativesOpened_singleton form.label_ne_elseLabel
    simpa [elseLines, Node.outlineOptional] using hlabel.append hleading
  | some node =>
    have hnode : AlternativesOpened (deepen node.outline) :=
      (h node (List.mem_append_right _ (by simp [halternative]))).deepen
    rw [Form.label_of_alternative? halternative]
    exact (hleading.conditional hdeeper).append hnode

/-- Before every line of an alternative in a tree stands that of a conditional. -/
theorem Node.alternativesOpened_outline (node : Node) : AlternativesOpened node.outline := by
  induction node using Node.induction_by_children with
  | step node ih =>
    rw [Node.outline_eq_flatMap]
    exact alternativesOpened_flatMap fun form hform =>
      Form.alternativesOpened_outline (ih form hform)

/-! ## Counting the lines of alternatives -/

/-- The number of lines of alternatives in an outline. -/
def countAlternatives (outline : List Line) : Nat :=
  outline.countP fun line => line.label = elseLabel

/-- Each line of an alternative counts as one. -/
theorem countAlternatives_eq_labelSum (outline : List Line) :
    countAlternatives outline =
      labelSum (fun label => if label = elseLabel then 1 else 0) outline := by
  induction outline with
  | nil => rfl
  | cons line outline ih =>
    rw [countAlternatives, List.countP_cons, labelSum, List.map_cons, List.sum_cons, Nat.add_comm]
    simp only [decide_eq_true_eq]
    exact congrArg (_ + ·) ih

/-- A tree has as many lines of alternatives as conditionals with an alternative. -/
theorem Node.countAlternatives_outline (node : Node) :
    countAlternatives node.outline = node.alternatives := by
  rw [countAlternatives_eq_labelSum]
  refine (addsUp_labelSum _).unique addsUp_alternatives (fun form => ?_) node
  rw [if_neg form.label_ne_elseLabel, if_pos rfl, Nat.zero_add, Nat.mul_one]

/-! ## After the lines of a conditional -/

/-- What follows a form at some depth that has no alternative: nothing, another form as deep, or a
line that is less deep. -/
def LeavesForm (depth : Nat) (rest : List Line) : Prop :=
  ∀ line ∈ rest.head?, line.depth < depth ∨ line.depth = depth ∧ line.label ≠ elseLabel

/-- The end of an outline leaves every form. -/
theorem leavesForm_nil (depth : Nat) : LeavesForm depth [] := by
  simp [LeavesForm]

/-- What leaves a form is not deeper than it. -/
theorem LeavesForm.depth_le {depth : Nat} {rest : List Line} (h : LeavesForm depth rest) :
    ∀ line ∈ rest.head?, line.depth ≤ depth := by
  intro line hline
  rcases h line hline with hless | ⟨hsame, -⟩
  · exact hless.le
  · exact hsame.le

/-- What leaves a form does not start with the line of its alternative. -/
theorem LeavesForm.head?_ne {depth : Nat} {rest : List Line} (h : LeavesForm depth rest) :
    rest.head? ≠ some ⟨depth, elseLabel⟩ := by
  intro hhead
  rcases h ⟨depth, elseLabel⟩ hhead with hless | ⟨-, hlabel⟩
  · exact Nat.lt_irrefl depth hless
  · exact hlabel rfl

/-- Joined lines leave a form if both parts do, as the first may be empty. -/
theorem LeavesForm.append {depth : Nat} {first second : List Line} (hfirst : LeavesForm depth first)
    (hsecond : LeavesForm depth second) : LeavesForm depth (first ++ second) := by
  cases first with
  | nil => exact hsecond
  | cons line first => exact hfirst

/-- Lines that leave a form leave every deeper one. -/
theorem LeavesForm.mono {depth deeper : Nat} {rest : List Line} (h : LeavesForm depth rest)
    (hle : depth ≤ deeper) : LeavesForm deeper rest := by
  intro line hline
  rcases h line hline with hless | ⟨hsame, hlabel⟩
  · exact .inl (by omega)
  · rcases Nat.lt_or_eq_of_le hle with hlt | rfl
    · exact .inl (by omega)
    · exact .inr ⟨hsame, hlabel⟩

/-- Moved lines leave a form that is moved as far. -/
theorem LeavesForm.deepenBy {depth : Nat} {rest : List Line} (h : LeavesForm depth rest)
    (levels : Nat) : LeavesForm (levels + depth) (deepenBy levels rest) := by
  cases rest with
  | nil => exact leavesForm_nil _
  | cons first rest =>
    intro line hline
    obtain rfl := Option.some.inj hline
    rcases h first rfl with hless | ⟨hsame, hlabel⟩
    · exact .inl (Nat.add_lt_add_left hless levels)
    · exact .inr ⟨congrArg (levels + ·) hsame, hlabel⟩

/-- Deepened lines leave a form one level below. -/
theorem LeavesForm.deepen {rest : List Line} (h : LeavesForm 0 rest) :
    LeavesForm 1 (deepen rest) := by
  rw [deepen_eq_deepenBy]
  exact h.deepenBy 1

/-- An outline starts with another form. -/
theorem Node.leavesForm_outline (node : Node) : LeavesForm 0 node.outline := by
  intro line hline
  rw [Node.outline_eq_merge] at hline
  exact .inr (startsForm_outlineAll node.merge line hline)

/-- An optional outline starts with another form if it is there. -/
theorem Node.leavesForm_outlineOptional (optional : Option Node) :
    LeavesForm 0 (Node.outlineOptional optional) := by
  cases optional with
  | none => exact leavesForm_nil 0
  | some node => exact node.leavesForm_outline

/-- The line of an alternative leaves the forms in the branch before it. -/
theorem leavesForm_elseLines (elseBranch : Option Node) : LeavesForm 1 (elseLines elseBranch) := by
  cases elseBranch with
  | none => exact leavesForm_nil 1
  | some node =>
    intro line hline
    obtain rfl := Option.some.inj hline
    exact .inl Nat.zero_lt_one

/-- The lines of a form after one of its children leave that child. -/
theorem Hole.leavesForm_linesAfter (hole : Hole) : LeavesForm 1 hole.linesAfter := by
  cases hole with
  | binaryLeft operator right => exact right.leavesForm_outline.deepen
  | conditionalCondition thenBranch elseBranch =>
    exact (thenBranch.leavesForm_outline.deepen.append (leavesForm_elseLines elseBranch)).append
      (Node.leavesForm_outlineOptional elseBranch).deepen
  | conditionalThen condition elseBranch =>
    exact (leavesForm_elseLines elseBranch).append
      (Node.leavesForm_outlineOptional elseBranch).deepen
  | loopCondition body => exact body.leavesForm_outline.deepen
  | _ => exact leavesForm_nil 1

/-- The lines of a frame after its place leave what stands there. -/
theorem Frame.leavesForm_linesAfter (frame : Frame) : LeavesForm frame.depth frame.linesAfter := by
  cases frame with
  | within hole rest =>
    exact hole.leavesForm_linesAfter.append
      ((Node.leavesForm_outlineOptional rest).mono (Nat.zero_le 1))
  | after head => exact leavesForm_nil 0

/-- The lines of a context after its place leave what stands there. -/
theorem Context.leavesForm_linesAfter (context : Context) :
    LeavesForm context.depth context.linesAfter := by
  induction context with
  | nil => exact leavesForm_nil 0
  | cons frame outer ih =>
    rw [Context.depth_cons, Context.linesAfter]
    exact (frame.leavesForm_linesAfter.deepenBy _).append (ih.mono (Nat.le_add_right _ _))

/-- The lines of the branches of a conditional are deeper than its own, and the line after them is
that of its alternative exactly if it has one. -/
theorem Context.outline_fill_conditional (context : Context) {inner : Node}
    {condition thenBranch : Node} {elseBranch : Option Node}
    (h : inner.head = .conditional condition thenBranch elseBranch) :
    ∃ branches rest, Node.outline (context.fill inner) =
        context.linesBefore ++ ⟨context.depth, "If"⟩ :: (branches ++ rest) ∧
      (∀ line ∈ branches, context.depth < line.depth) ∧
      (∀ line ∈ rest.head?, line.depth ≤ context.depth) ∧
      (rest.head? = some ⟨context.depth, elseLabel⟩ ↔ elseBranch.isSome) := by
  have hinner : inner = Chain.cons (.conditional condition thenBranch elseBranch) inner.next? := by
    rw [← h, Chain.cons_head_next?]
  refine ⟨deepenBy context.depth (deepen condition.outline ++ deepen thenBranch.outline),
    deepenBy context.depth (elseLines elseBranch ++ deepen (Node.outlineOptional elseBranch) ++
      Node.outlineOptional inner.next?) ++ context.linesAfter, ?_, ?_, ?_⟩
  · rw [Context.outline_fill, hinner, Node.outline_cons, Form.outline]
    simp [deepenBy, Form.label]
  · intro line hline
    obtain ⟨original, horiginal, rfl⟩ := List.mem_map.mp hline
    have hdeeper : original.depth ≠ 0 := by
      rcases List.mem_append.mp horiginal with hmem | hmem
      · exact depth_ne_zero_of_mem_deepen original hmem
      · exact depth_ne_zero_of_mem_deepen original hmem
    exact Nat.lt_add_of_pos_right (Nat.pos_of_ne_zero hdeeper)
  · cases elseBranch with
    | some node => simp [elseLines, deepenBy]
    | none =>
      have hleaves : LeavesForm context.depth
          (deepenBy context.depth (Node.outlineOptional inner.next?) ++ context.linesAfter) :=
        ((Node.leavesForm_outlineOptional inner.next?).deepenBy context.depth).append
          context.leavesForm_linesAfter
      have hnone : elseLines none ++ deepen (Node.outlineOptional none) = [] := by
        simp [elseLines, Node.outlineOptional]
      rw [hnone, List.nil_append]
      exact ⟨hleaves.depth_le, iff_of_false hleaves.head?_ne (by simp)⟩

end ProgramTree
