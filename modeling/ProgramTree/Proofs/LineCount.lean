import ProgramTree.Proofs.OutlineText
import ProgramTree.Proofs.PrintedOutline

/-!
# Every entry is printed once

A line of an outline is printed with one line feed at its end, and its label holds the line feeds
of the name that its form carries. The line feeds of a printed text are therefore a sum over the
labels of the outline, and such a sum adds up over the tree. Each form contributes one for itself,
one for its alternative and the line feeds of its name, so that the text has as many line feeds as
these amount to in the whole tree.
-/

namespace ProgramTree

/-- The number of line feeds in a text. -/
def lineFeeds (text : String) : Nat :=
  text.toList.count '\n'

/-! ## Labels -/

/-- Joined texts have the line feeds of both. -/
theorem lineFeeds_append (first second : String) :
    lineFeeds (first ++ second) = lineFeeds first + lineFeeds second := by
  rw [lineFeeds, String.toList_append, List.count_append]
  rfl

/-- A numeral has no line feeds. -/
theorem lineFeeds_repr (value : Int) : lineFeeds value.repr = 0 :=
  List.count_eq_zero.mpr (lineFeed_notMem_repr value)

/-- A label has the line feeds of the name that its form carries. -/
theorem Form.lineFeeds_label (form : Form) :
    lineFeeds form.label = (form.name?.toList.map lineFeeds).sum := by
  have hstart {start shown : String} (h : lineFeeds start = 0) :
      lineFeeds (start ++ shown) = lineFeeds shown := by
    rw [lineFeeds_append, h, Nat.zero_add]
  cases form with
  | integer value => exact (hstart (by decide)).trans (lineFeeds_repr _)
  | reference name => exact hstart (by decide)
  | binary operator left right => exact (hstart (by decide)).trans (lineFeeds_repr _)
  | unary operator operand => exact (hstart (by decide)).trans (lineFeeds_repr _)
  | assign name value => exact hstart (by decide)
  | declare name initializer => exact hstart (by decide)
  | conditional condition thenBranch elseBranch => exact (by decide : lineFeeds "If" = 0)
  | loop condition body => exact (by decide : lineFeeds "While" = 0)
  | block body => exact (by decide : lineFeeds "Block" = 0)

/-! ## Outlines -/

/-- A printed line has the line feeds of its label and one at its end. -/
theorem Line.lineFeeds_text (line : Line) (level : Nat) :
    lineFeeds (line.text level) = lineFeeds line.label + 1 := by
  have hmargin :
      lineFeeds (String.ofList (List.replicate (2 * (level + line.depth)) ' ')) = 0 := by
    rw [lineFeeds, String.toList_ofList, List.count_replicate]
    rfl
  rw [Line.text, lineFeeds_append, lineFeeds_append, hmargin, Nat.zero_add]
  rfl

/-- The line feeds of a printed outline are those of its lines. -/
theorem lineFeeds_outlineText (level : Nat) (outline : List Line) :
    lineFeeds (outlineText level outline) =
      labelSum (fun label => lineFeeds label + 1) outline := by
  induction outline with
  | nil => rfl
  | cons line outline ih =>
    rw [outlineText, lineFeeds_append, line.lineFeeds_text, ih]
    rfl

/-- The lines of a tree have one line feed for every entry and every alternative, and those of the
names in the tree. -/
theorem Node.labelSum_lineFeeds (node : Node) :
    labelSum (fun label => lineFeeds label + 1) node.outline =
      node.size + node.alternatives + (node.names.map lineFeeds).sum := by
  have hcounted := (addsUp_size.add addsUp_alternatives).add (addsUp_names lineFeeds)
  refine (addsUp_labelSum fun label => lineFeeds label + 1).unique hcounted (fun form => ?_) node
  have halternative : lineFeeds elseLabel = 0 := by decide
  rw [form.lineFeeds_label, halternative]
  omega

/-- A printed outline that has lines ends with a line feed. -/
theorem getLast?_outlineText (level : Nat) {outline : List Line} (h : outline ≠ []) :
    (outlineText level outline).toList.getLast? = some '\n' := by
  obtain ⟨lines, line, rfl⟩ := List.eq_nil_or_concat' outline |>.resolve_left h
  rw [outlineText_append, outlineText, outlineText, String.append_empty, Line.text,
    String.toList_append, String.toList_append, List.getLast?_append]
  simp

/-! ## Printed trees -/

/-- No entry of a printed tree is left out and none is printed twice.

The text has one line feed for every entry of the tree, linked entries and children included, one
for every conditional with an alternative, and those that the names themselves hold. It is not
empty and ends with a line feed. -/
theorem lineFeeds_count_entries {node : Node} {level : UInt64} {text : String}
    (hrender : render (some node) level = .ok text) :
    lineFeeds text = node.size + node.alternatives + (node.names.map lineFeeds).sum ∧
      text ≠ "" ∧ text.toList.getLast? = some '\n' := by
  obtain rfl := eq_outlineText_of_render hrender
  refine ⟨?_, mt outlineText_eq_empty_iff.mp node.outline_ne_nil,
    getLast?_outlineText _ node.outline_ne_nil⟩
  rw [lineFeeds_outlineText, node.labelSum_lineFeeds]

/-- Six entries, one alternative and two line feeds in names give nine line feeds. -/
theorem lineFeeds_count_entries_of_broken_names :
    let node := Node.conditional ((Node.reference "a\nb").append (Node.integer 1))
      (Node.block none) (some (Node.assign "x\n" (Node.integer 2)))
    let text := "  If\n    Var: a\nb\n    Int: 1\n    Block\n  Else\n" ++
      "    Assign: x\n\n      Int: 2\n"
    render (some node) 1 = .ok text ∧ node.size = 6 ∧ node.alternatives = 1 ∧
      node.names = ["a\nb", "x\n"] ∧ lineFeeds text = 9 ∧ text ≠ "" ∧
      text.toList.getLast? = some '\n' := by
  intro node text
  have hrender : render (some node) 1 = .ok text :=
    (render_eq_ok_iff _ _ _).mpr ⟨by decide, by decide⟩
  obtain ⟨hcount, hne, hlast⟩ := lineFeeds_count_entries hrender
  exact ⟨hrender, rfl, rfl, rfl, hcount, hne, hlast⟩

end ProgramTree
