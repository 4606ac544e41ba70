import ProgramTree.Proofs.PrintedRows
import ProgramTree.Proofs.TreeSums

/-!
# Printing at a deeper level

The level at which a tree is printed shows only in the indents of its lines. Printing the tree some
levels deeper puts two spaces per level in front of every line of its outline. If no name holds a
line feed, these are the lines into which the text is divided.

The part of a name after a line feed is not indented, but the bytes can still be counted. The text
grows by the added spaces of each line of the outline, and there is one line for every entry and
one for every alternative.
-/

namespace ProgramTree

/-! ## Indents -/

/-- Spaces are as many bytes. -/
theorem utf8ByteSize_spaces (width : Nat) :
    (String.ofList (List.replicate width ' ')).utf8ByteSize = width := by
  induction width with
  | zero => rfl
  | succ width ih =>
    have hspace : (String.ofList [' ']).utf8ByteSize = 1 := rfl
    rw [List.replicate_succ', String.ofList_append, String.utf8ByteSize_append, ih, hspace]

/-- The indent of a line at a deeper level has two more spaces for each level at its front. -/
theorem Line.margin_add (line : Line) (level levels : Nat) :
    line.margin (level + levels) =
      String.ofList (List.replicate (2 * levels) ' ') ++ line.margin level := by
  have hwidth : 2 * (level + levels + line.depth) = 2 * levels + 2 * (level + line.depth) := by
    omega
  rw [Line.margin, Line.margin, hwidth, List.replicate_add, String.ofList_append]

/-- A line takes its indent, its label and a line feed. -/
theorem Line.utf8ByteSize_text (line : Line) (level : Nat) :
    (line.text level).utf8ByteSize = 2 * (level + line.depth) + line.label.utf8ByteSize + 1 := by
  rw [Line.text, String.utf8ByteSize_append, String.utf8ByteSize_append, utf8ByteSize_spaces]
  rfl

/-! ## Outlines -/

/-- Printing an outline deeper puts spaces in front of each of its lines. -/
theorem outlineText_add_eq_unlines {outline : List Line} (hplain : PlainLabels outline)
    (level levels : Nat) :
    outlineText (level + levels) outline =
      unlines ((lines (outlineText level outline)).map fun line =>
        String.ofList (List.replicate (2 * levels) ' ') ++ line) := by
  rw [lines_outlineText hplain, List.map_map, outlineText_eq_unlines]
  congr 1
  apply List.map_congr_left
  intro line _
  rw [line.margin_add, String.append_assoc]
  rfl

/-- Printing an outline deeper adds two bytes for each level and line. -/
theorem utf8ByteSize_outlineText_add (level levels : Nat) (outline : List Line) :
    (outlineText (level + levels) outline).utf8ByteSize =
      (outlineText level outline).utf8ByteSize + 2 * levels * outline.length := by
  induction outline with
  | nil => rfl
  | cons line outline ih =>
    rw [outlineText, outlineText, String.utf8ByteSize_append, String.utf8ByteSize_append, ih,
      line.utf8ByteSize_text, line.utf8ByteSize_text, List.length_cons, Nat.mul_succ]
    omega

/-! ## Printed trees -/

/-- Printing a tree at a deeper level only indents its lines more.

A tree that is printed at a level is also printed at every level above it. If no name in the tree
holds a line feed, the text there is made of the lines it is divided into, and the deeper text of
the same lines, each with two spaces more per level in front. Whatever the names are, the deeper
text is longer by these spaces for every entry and every alternative. -/
theorem render_deeper_reindents {node : Node} {level deeper : UInt64} {levels : Nat}
    {moved : String} (hdeeper : deeper.toNat = level.toNat + levels)
    (hmoved : render (some node) deeper = .ok moved) :
    ∃ text, render (some node) level = .ok text ∧
      (OneLineNames node.names →
        text = unlines (lines text) ∧
          moved = unlines ((lines text).map fun line =>
            String.ofList (List.replicate (2 * levels) ' ') ++ line)) ∧
      moved.utf8ByteSize =
        text.utf8ByteSize + 2 * levels * (node.size + node.alternatives) := by
  obtain ⟨hfits, rfl⟩ := (render_eq_ok_iff _ _ _).mp hmoved
  rw [Node.outlineOptional, hdeeper] at hfits ⊢
  have hlower : LinesFit level.toNat node.outline := by
    intro line hline
    have hline := hfits line hline
    omega
  refine ⟨outlineText level.toNat node.outline, (render_eq_ok_iff _ _ _).mpr ⟨?_, ?_⟩, ?_, ?_⟩
  · rwa [Node.outlineOptional]
  · rw [Node.outlineOptional]
  · intro hnames
    have hplain := Node.plainLabels_outline node hnames
    exact ⟨(unlines_lines_outlineText hplain _).symm, outlineText_add_eq_unlines hplain _ _⟩
  · rw [utf8ByteSize_outlineText_add, node.length_outline]

/-- Two levels deeper every line of a conditional and its alternative has four more spaces. -/
theorem render_deeper_reindents_alternative :
    let node := Node.conditional (Node.reference "é") (Node.block none) (some (Node.integer 1))
    let text := "If\n  Var: é\n  Block\nElse\n  Int: 1\n"
    let moved := "    If\n      Var: é\n      Block\n    Else\n      Int: 1\n"
    (2 : UInt64).toNat = (0 : UInt64).toNat + 2 ∧ OneLineNames node.names ∧
      render (some node) 0 = .ok text ∧ render (some node) 2 = .ok moved ∧
      moved = unlines ((lines text).map fun line =>
        String.ofList (List.replicate (2 * 2) ' ') ++ line) ∧
      moved.utf8ByteSize = text.utf8ByteSize + 2 * 2 * (4 + 1) := by
  intro node text moved
  have hdeeper : (2 : UInt64).toNat = (0 : UInt64).toNat + 2 := rfl
  have hnames : OneLineNames node.names := by decide
  have hrender : render (some node) 0 = .ok text :=
    (render_eq_ok_iff _ _ _).mpr ⟨by decide, by decide⟩
  have hmoved : render (some node) 2 = .ok moved :=
    (render_eq_ok_iff _ _ _).mpr ⟨by decide, by decide⟩
  obtain ⟨shown, hshown, hlines, hbytes⟩ := render_deeper_reindents hdeeper hmoved
  obtain rfl : text = shown := Except.ok.inj (hrender.symm.trans hshown)
  exact ⟨hdeeper, hnames, hrender, hmoved, (hlines hnames).2, hbytes⟩

end ProgramTree
