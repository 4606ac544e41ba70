import Mathlib.Data.List.Chain
import ProgramTree.Proofs.Appending
import ProgramTree.Proofs.MergedOutline
import ProgramTree.Proofs.PrintedRows
import ProgramTree.Proofs.TreeInduction

/-!
# Printed lines form an indented outline

An outline is gradual when no line is more than one level deeper than the line before it. Gradual
outlines can be joined if they start near the base, since going back up is always allowed. The
lines of a form are its own line at the base, those of its children one level deeper, and the line
before an alternative, which goes back to the base. So the outline of a tree is gradual, by
induction over the tree.

The lines of a form that stand at the base are its own and the one before its alternative, because
everything else is the line of a child. The lines at the base of a tree are therefore those of the
siblings of its first entry, whatever is nested below them.
-/

namespace ProgramTree

/-! ## Gradual outlines -/

/-- The first line is no deeper than a start, and every other at most one level deeper than the
line before it. -/
structure Gradual (start : Nat) (outline : List Line) : Prop where
  first : ∀ line ∈ outline.head?, line.depth ≤ start
  steps : outline.IsChain fun line next => next.depth ≤ line.depth + 1

/-- An outline without lines is gradual. -/
theorem gradual_nil (start : Nat) : Gradual start [] :=
  ⟨by simp, .nil⟩

/-- A line may be followed by lines that start one level deeper. -/
theorem Gradual.cons {depth : Nat} {outline : List Line} (h : Gradual (depth + 1) outline)
    (label : String) : Gradual depth (⟨depth, label⟩ :: outline) := by
  refine ⟨?_, h.steps.cons h.first⟩
  intro line hline
  rw [← Option.some.inj hline]

/-- Outlines that start at most one level below the base can be joined. -/
theorem Gradual.append {start : Nat} {outline outline' : List Line} (h : Gradual start outline)
    (h' : Gradual start outline') (hstart : start ≤ 1) : Gradual start (outline ++ outline') := by
  constructor
  · cases outline with
    | nil => exact h'.first
    | cons line outline => exact h.first
  · refine h.steps.append h'.steps ?_
    intro line _ next hnext
    have hnear := h'.first next hnext
    omega

/-- Outlines over a list that start at most one level below the base can be joined. -/
theorem gradual_flatMap {α : Type} {start : Nat} {items : List α} {outline : α → List Line}
    (h : ∀ item ∈ items, Gradual start (outline item)) (hstart : start ≤ 1) :
    Gradual start (items.flatMap outline) := by
  induction items with
  | nil => exact gradual_nil start
  | cons item items ih =>
    rw [List.forall_mem_cons] at h
    exact h.1.append (ih h.2) hstart

/-- A deepened outline is gradual from one level deeper. -/
theorem Gradual.deepen {start : Nat} {outline : List Line} (h : Gradual start outline) :
    Gradual (start + 1) (deepen outline) := by
  constructor
  · intro line hline
    rw [ProgramTree.deepen, List.head?_map, Option.mem_map] at hline
    obtain ⟨original, horiginal, rfl⟩ := hline
    exact Nat.succ_le_succ (h.first original horiginal)
  · rw [ProgramTree.deepen, List.isChain_map]
    exact h.steps.imp fun _ _ hstep => Nat.succ_le_succ hstep

/-- The line before an alternative is at the base. -/
theorem gradual_elseLines (elseBranch : Option Node) : Gradual 1 (elseLines elseBranch) := by
  cases elseBranch with
  | none => exact gradual_nil 1
  | some node => exact ⟨by simp [elseLines], .singleton _⟩

/-- The outline of a form is gradual if those of its children are. -/
theorem Form.gradual_outline {form : Form}
    (h : ∀ child ∈ form.children, Gradual 0 child.outline) : Gradual 0 form.outline := by
  have hleading : Gradual 1
      (form.leadingChildren.flatMap fun child => deepen child.outline) :=
    gradual_flatMap (fun child hchild => (h child (List.mem_append_left _ hchild)).deepen)
      (le_refl 1)
  have halternative : Gradual 1 (deepen (Node.outlineOptional form.alternative?)) := by
    rw [← Node.flatMap_deepen_toList]
    exact gradual_flatMap
      (fun child hchild => (h child (List.mem_append_right _ hchild)).deepen) (le_refl 1)
  rw [form.outline_eq]
  exact ((hleading.append (gradual_elseLines _) (le_refl 1)).append halternative
    (le_refl 1)).cons form.label

/-- The outline of a tree is gradual from the base. -/
theorem Node.gradual_outline (node : Node) : Gradual 0 node.outline := by
  induction node using Node.induction_by_children with
  | step node ih =>
    rw [node.outline_eq_flatMap]
    exact gradual_flatMap (fun form hform => Form.gradual_outline (ih form hform)) zero_le_one

/-- The rows of a gradual outline have at most two spaces more than the row before. -/
theorem Gradual.isChain_rows {start : Nat} {outline : List Line} (h : Gradual start outline)
    (level : Nat) :
    (outline.map (Line.row level)).IsChain fun row next => next.indent ≤ row.indent + 2 := by
  rw [List.isChain_map]
  refine h.steps.imp fun line next hstep => ?_
  change 2 * (level + next.depth) ≤ 2 * (level + line.depth) + 2
  omega

/-- The first row of a tree has the indent of the level. -/
theorem Node.indent_first_row (node : Node) (level : Nat) :
    (node.outline.map (Line.row level)).head?.map Row.indent = some (2 * level) := by
  have hgradual := node.gradual_outline
  cases houtline : node.outline with
  | nil => exact absurd houtline node.outline_ne_nil
  | cons line outline =>
    rw [houtline] at hgradual
    have hbase : line.depth = 0 := Nat.le_zero.mp (hgradual.first line rfl)
    rw [List.map_cons, List.head?_cons, Option.map_some, Line.row, hbase, Nat.add_zero]

/-! ## Lines at the base -/

/-- No line of a deepened outline is at the base. -/
theorem filter_base_deepen (outline : List Line) :
    (deepen outline).filter (·.depth = 0) = [] := by
  rw [List.filter_eq_nil_iff]
  intro line hline
  simpa using depth_ne_zero_of_mem_deepen line hline

/-- The lines of a form at the base are its own and the one before its alternative. -/
theorem Form.filter_base_outline (form : Form) :
    form.outline.filter (·.depth = 0) = ⟨0, form.label⟩ :: elseLines form.alternative? := by
  have helse : (elseLines form.alternative?).filter (·.depth = 0) =
      elseLines form.alternative? := by
    cases form.alternative? <;> rfl
  have hleading : (form.leadingChildren.flatMap fun child => deepen child.outline).filter
      (·.depth = 0) = [] := by
    rw [List.filter_flatMap]
    exact List.flatMap_eq_nil_iff.mpr fun child _ => filter_base_deepen child.outline
  rw [form.outline_eq, List.filter_cons_of_pos (by simp), List.filter_append, List.filter_append,
    hleading, helse, filter_base_deepen, List.nil_append, List.append_nil]

/-- The lines of a tree at the base are those of the siblings of its first entry. -/
theorem Node.filter_base_outline (node : Node) :
    node.outline.filter (·.depth = 0) = node.siblings.remaining.flatMap fun sibling =>
      ⟨0, sibling.head.label⟩ :: elseLines sibling.head.alternative? := by
  rw [node.outline_eq_flatMap_siblings, List.filter_flatMap]
  congr 1
  funext sibling
  exact sibling.head.filter_base_outline

/-- The rows at the indent of a level are those of the lines at the base. -/
theorem filter_base_map_row (level : Nat) (outline : List Line) :
    (outline.map (Line.row level)).filter (·.indent = 2 * level) =
      (outline.filter (·.depth = 0)).map (Line.row level) := by
  rw [List.filter_map]
  congr 2
  funext line
  have hbase : 2 * (level + line.depth) = 2 * level ↔ line.depth = 0 := by omega
  exact decide_eq_decide.mpr hbase

/-- Siblings show one label each at their own depth, and one more for each alternative. -/
theorem length_base_labels (siblings : List Node) :
    (siblings.flatMap fun sibling =>
      if sibling.head.alternative?.isSome then [sibling.head.label, "Else"]
      else [sibling.head.label]).length =
      siblings.length + siblings.countP (·.head.alternative?.isSome) := by
  induction siblings with
  | nil => rfl
  | cons sibling siblings ih =>
    rw [List.flatMap_cons, List.length_append, ih, List.countP_cons, List.length_cons]
    cases sibling.head.alternative?.isSome <;> simp <;> omega

/-- The rows of a tree at the indent of the level show the labels of the siblings of its first
entry, each followed by the label before its alternative if there is one. -/
theorem Node.labels_base_rows (node : Node) (level : Nat) :
    ((node.outline.map (Line.row level)).filter (·.indent = 2 * level)).map Row.label =
      node.siblings.remaining.flatMap fun sibling =>
        if sibling.head.alternative?.isSome then [sibling.head.label, "Else"]
        else [sibling.head.label] := by
  rw [filter_base_map_row, node.filter_base_outline, List.map_map, List.map_flatMap]
  congr 1
  funext sibling
  cases sibling.head.alternative? <;> rfl

/-- The rows of a tree at the indent of the level are as many as the siblings of its first entry
and their alternatives. -/
theorem Node.count_base_rows (node : Node) (level : Nat) :
    (node.outline.map (Line.row level)).countP (·.indent = 2 * level) =
      node.siblings.count + node.siblings.remaining.countP (·.head.alternative?.isSome) := by
  have hsiblings : node.siblings.count = node.siblings.remaining.length := by
    rw [Node.count_siblings]
    exact (Chain.length_suffixes node).symm
  rw [List.countP_eq_length_filter, hsiblings, ← length_base_labels,
    ← node.labels_base_rows level, List.length_map]

/-! ## Labels -/

/-- No form has an empty label. -/
theorem Form.label_ne_empty (form : Form) : form.label ≠ "" := by
  cases form <;> simp [Form.label]

/-- No line of a tree has an empty label. -/
theorem Node.label_ne_empty_of_mem_outline (node : Node) :
    ∀ line ∈ node.outline, line.label ≠ "" := by
  induction node using Node.induction_by_children with
  | step node ih =>
    intro line hline
    rw [node.outline_eq_flatMap, List.mem_flatMap] at hline
    obtain ⟨form, hform, hline⟩ := hline
    have hdeepened {child : Node} (hchild : child ∈ form.children) :
        ∀ line ∈ deepen child.outline, line.label ≠ "" := by
      intro line hline
      obtain ⟨original, horiginal, rfl⟩ := List.mem_map.mp hline
      exact ih form hform child hchild original horiginal
    rw [form.outline_eq, ← Node.flatMap_deepen_toList] at hline
    simp only [List.mem_cons, List.mem_append, List.mem_flatMap] at hline
    rcases hline with rfl | (⟨child, hchild, hline⟩ | helse) | ⟨child, hchild, hline⟩
    · exact form.label_ne_empty
    · exact hdeepened (List.mem_append_left _ hchild) line hline
    · cases halternative : form.alternative? with
      | none => simp [halternative, elseLines] at helse
      | some alternative =>
        obtain rfl : line = ⟨0, elseLabel⟩ := by simpa [halternative, elseLines] using helse
        exact (by decide : elseLabel ≠ "")
    · exact hdeepened (List.mem_append_right _ hchild) line hline

/-- A line with a plain label that is not empty is an even number of spaces and a label that
starts with another character, and it is read as such. -/
theorem Line.exists_indent_label {line : Line} (hplain : IsPlain line.label)
    (hlabel : line.label ≠ "") (level : Nat) :
    ∃ steps label,
      line.margin level ++ line.label = String.ofList (List.replicate (2 * steps) ' ') ++ label ∧
      Row.read (line.margin level ++ line.label) = ⟨2 * steps, label⟩ ∧
      ∃ first ∈ label.toList.head?, first ≠ ' ' := by
  refine ⟨level + line.depth, line.label, rfl, Row.read_line hplain level, ?_⟩
  cases hcharacters : line.label.toList with
  | nil => exact absurd (String.toList_eq_nil_iff.mp hcharacters) hlabel
  | cons first rest => exact ⟨first, rfl, by simpa [hcharacters] using hplain.2⟩

/-! ## Printed trees -/

/-- The lines of a printed tree form an indented outline with the siblings at its base.

The names in the tree hold no line feeds. The text is made of the lines it is divided into, and
each of them is an even number of spaces before a label that starts with another character. The
first line has the indent of the level, no line has less, and a line has at most two spaces more
than the one before it. The lines with exactly the indent of the level show the labels of the
siblings in order, and after that of a conditional with an alternative the line before it; so
there are as many of them as there are siblings and alternatives of siblings. -/
theorem rows_form_indented_outline {node : Node} {level : UInt64} {text : String}
    (hnames : OneLineNames node.names) (hrender : render (some node) level = .ok text) :
    text = unlines (lines text) ∧
    (∀ line ∈ lines text, ∃ steps label,
      line = String.ofList (List.replicate (2 * steps) ' ') ++ label ∧
        Row.read line = ⟨2 * steps, label⟩ ∧ ∃ first ∈ label.toList.head?, first ≠ ' ') ∧
    (rows text).head?.map Row.indent = some (2 * level.toNat) ∧
    (∀ row ∈ rows text, 2 * level.toNat ≤ row.indent) ∧
    (rows text).IsChain (fun row next => next.indent ≤ row.indent + 2) ∧
    ((rows text).filter (·.indent = 2 * level.toNat)).map Row.label =
      node.siblings.remaining.flatMap (fun sibling =>
        if sibling.head.alternative?.isSome then [sibling.head.label, "Else"]
        else [sibling.head.label]) ∧
    (rows text).countP (·.indent = 2 * level.toNat) =
      node.siblings.count + node.siblings.remaining.countP (·.head.alternative?.isSome) := by
  have hplain := Node.plainLabels_outline node hnames
  have htext := eq_outlineText_of_render hrender
  have hrows := rows_of_render hnames hrender
  refine ⟨?_, ?_, ?_, ?_, ?_, ?_, ?_⟩
  · rw [htext, unlines_lines_outlineText hplain]
  · rw [htext, lines_outlineText hplain, List.forall_mem_map]
    intro line hline
    exact Line.exists_indent_label (hplain line hline)
      (node.label_ne_empty_of_mem_outline line hline) level.toNat
  · rw [hrows, node.indent_first_row]
  · rw [hrows, List.forall_mem_map]
    intro line _
    exact Nat.mul_le_mul_left 2 (Nat.le_add_right _ _)
  · rw [hrows]
    exact node.gradual_outline.isChain_rows level.toNat
  · rw [hrows, node.labels_base_rows]
  · rw [hrows, node.count_base_rows]

/-- Two statements, one of them with an alternative, show three lines at the indent of the level,
also when what is nested in them has alternatives of its own. -/
theorem rows_form_indented_outline_of_nested :
    let nested := Node.conditional (Node.reference " x") (Node.block none) (some (Node.integer 1))
    let first := Node.conditional (Node.reference "Else") nested (some (Node.integer 2))
    let node : Node := first.append (Node.declare "If" none)
    let text := "  If\n    Var: Else\n    If\n      Var:  x\n      Block\n    Else\n" ++
      "      Int: 1\n  Else\n    Int: 2\n  VarDecl: If\n"
    OneLineNames node.names ∧ render (some node) 1 = .ok text ∧
      (rows text).map Row.indent = [2, 4, 4, 6, 6, 4, 6, 2, 4, 2] ∧
      ((rows text).filter (·.indent = 2)).map Row.label = ["If", "Else", "VarDecl: If"] ∧
      (rows text).countP (·.indent = 2) = 2 + 1 := by
  intro nested first node text
  have hnames : OneLineNames node.names := by decide
  have hrender : render (some node) 1 = .ok text :=
    (render_eq_ok_iff _ _ _).mpr ⟨by decide, by decide⟩
  obtain ⟨-, -, -, -, -, hlabels, hcount⟩ := rows_form_indented_outline hnames hrender
  have hrows : rows text = node.outline.map (Line.row 1) := rows_of_render hnames hrender
  have hindents : (rows text).map Row.indent = [2, 4, 4, 6, 6, 4, 6, 2, 4, 2] := by
    rw [hrows]
    decide
  exact ⟨hnames, hrender, hindents, hlabels, hcount⟩

end ProgramTree
