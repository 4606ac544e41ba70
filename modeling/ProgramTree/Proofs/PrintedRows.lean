import ProgramTree.Proofs.Composition
import ProgramTree.Proofs.OutlineText
import ProgramTree.Text.Lines

/-!
# Reading the lines of a printed text

A line of a text is read as a row: the number of spaces it starts with, and the label after them.
When the labels of an outline are plain, its text is divided at its line feeds into exactly the
lines of the outline, and each of them is read as its indent and its label.

The rows of a node in a tree are those of the node on its own at the level of its place. They
stand together, after the rows of the lines that the context shows before the place.
-/

namespace ProgramTree

/-- A line of a text as it is read. -/
@[ext]
structure Row where
  /-- The number of spaces before the label. -/
  indent : Nat
  label : String
  deriving DecidableEq

/-- Read a line: the spaces it starts with are its indent, and the rest is its label. -/
def Row.read (line : String) : Row :=
  ⟨(line.toList.takeWhile (· = ' ')).length, String.ofList (line.toList.dropWhile (· = ' '))⟩

/-- The rows of a text. -/
def rows (text : String) : List Row :=
  (lines text).map Row.read

/-- The row of a line of an outline that stands at a level. -/
def Line.row (level : Nat) (line : Line) : Row :=
  ⟨2 * (level + line.depth), line.label⟩

/-- The indent of a line before its label. -/
def Line.margin (level : Nat) (line : Line) : String :=
  String.ofList (List.replicate (2 * (level + line.depth)) ' ')

/-- The text with the given lines, each of them closed by a line feed. -/
def unlines (shown : List String) : String :=
  String.join (shown.map (· ++ "\n"))

/-- A line without line feeds is the first piece of a text that starts with it. -/
theorem pieces_line_append {line : String} (hline : '\n' ∉ line.toList) (rest : String) :
    pieces (line ++ "\n" ++ rest) = line :: pieces rest := by
  have hclean : ∀ character ∈ line.toList, (character == '\n') = false := by
    intro character hmem
    exact beq_false_of_ne fun h => hline (h ▸ hmem)
  have hsplit : List.splitOn '\n' (line.toList ++ '\n' :: rest.toList) =
      line.toList :: List.splitOn '\n' rest.toList :=
    List.splitOnP_append_cons_of_forall_mem hclean '\n' rfl rest.toList
  rw [pieces_eq, pieces_eq, String.toList_append, String.toList_append, List.append_assoc]
  change (List.splitOn '\n' (line.toList ++ '\n' :: rest.toList)).map String.ofList = _
  rw [hsplit, List.map_cons, String.ofList_toList]

/-- The text of an outline with plain labels is divided into its lines, each closed by a line
feed. -/
theorem pieces_outlineText {outline : List Line} (hplain : PlainLabels outline) (level : Nat) :
    pieces (outlineText level outline) =
      outline.map (fun line => line.margin level ++ line.label) ++ [""] := by
  induction outline with
  | nil =>
    rw [outlineText, pieces_eq]
    rfl
  | cons line outline ih =>
    rw [plainLabels_cons] at hplain
    have hclean : '\n' ∉ (line.margin level ++ line.label).toList := by
      rw [String.toList_append, List.mem_append, Line.margin, String.toList_ofList]
      rintro (hmargin | hlabel)
      · exact absurd (List.eq_of_mem_replicate hmargin) (by decide)
      · exact hplain.1.1 hlabel
    rw [outlineText, Line.text]
    exact (pieces_line_append hclean _).trans (congrArg _ (ih hplain.2))

/-- A line with a plain label is read as its indent and its label. -/
theorem Row.read_line {line : Line} (hplain : IsPlain line.label) (level : Nat) :
    Row.read (line.margin level ++ line.label) = line.row level := by
  have hlabel : line.label.toList.takeWhile (· = ' ') = [] ∧
      line.label.toList.dropWhile (· = ' ') = line.label.toList := by
    cases hcharacters : line.label.toList with
    | nil => exact ⟨rfl, rfl⟩
    | cons character rest =>
      have hne : character ≠ ' ' := by simpa [hcharacters] using hplain.2
      simp [hne]
  have hspaces : ∀ character ∈ List.replicate (2 * (level + line.depth)) ' ',
      decide (character = ' ') = true := by
    intro character hmem
    exact decide_eq_true (List.eq_of_mem_replicate hmem)
  rw [Row.read, Line.row, Line.margin, String.toList_append, String.toList_ofList,
    List.takeWhile_append_of_pos hspaces, List.dropWhile_append_of_pos hspaces, hlabel.1, hlabel.2,
    List.append_nil, List.length_replicate, String.ofList_toList]

/-- The lines of the text of an outline with plain labels are its lines, each behind its indent. -/
theorem lines_outlineText {outline : List Line} (hplain : PlainLabels outline) (level : Nat) :
    lines (outlineText level outline) =
      outline.map fun line => line.margin level ++ line.label := by
  rw [lines, pieces_outlineText hplain]
  simp

/-- The text of an outline is made of its lines, each behind its indent. -/
theorem outlineText_eq_unlines (level : Nat) (outline : List Line) :
    outlineText level outline =
      unlines (outline.map fun line => line.margin level ++ line.label) := by
  rw [unlines, List.map_map]
  induction outline with
  | nil => rfl
  | cons line outline ih =>
    rw [outlineText, ih, List.map_cons, String.join_cons]
    rfl

/-- The text of an outline with plain labels is made of the lines it is divided into. -/
theorem unlines_lines_outlineText {outline : List Line} (hplain : PlainLabels outline)
    (level : Nat) : unlines (lines (outlineText level outline)) = outlineText level outline := by
  rw [lines_outlineText hplain, ← outlineText_eq_unlines]

/-- The rows of the text of an outline with plain labels are those of its lines. -/
theorem rows_outlineText {outline : List Line} (hplain : PlainLabels outline) (level : Nat) :
    rows (outlineText level outline) = outline.map (Line.row level) := by
  rw [rows, lines_outlineText hplain, List.map_map]
  apply List.map_congr_left
  intro line hline
  exact Row.read_line (hplain line hline) level

/-- The rows of a printed tree whose names hold no line feeds are those of its outline. -/
theorem rows_of_render {node : Node} {level : UInt64} {text : String}
    (hnames : OneLineNames node.names) (hrender : render (some node) level = .ok text) :
    rows text = node.outline.map (Line.row level.toNat) := by
  rw [eq_outlineText_of_render hrender]
  exact rows_outlineText (Node.plainLabels_outline node hnames) level.toNat

/-! ## The rows of a node in a tree -/

/-- The rows of a moved outline are those of the outline at a level as much deeper. -/
theorem map_row_deepenBy (level levels : Nat) (outline : List Line) :
    (deepenBy levels outline).map (Line.row level) = outline.map (Line.row (level + levels)) := by
  rw [deepenBy, List.map_map]
  apply List.map_congr_left
  intro line _
  exact congrArg (fun depth => (⟨2 * depth, line.label⟩ : Row)) (Nat.add_assoc _ _ _).symm

/-- An outline that is moved has plain labels only if they are plain before. -/
theorem plainLabels_of_deepenBy {levels : Nat} {outline : List Line}
    (h : PlainLabels (deepenBy levels outline)) : PlainLabels outline := by
  intro line hline
  exact h ⟨levels + line.depth, line.label⟩ (List.mem_map_of_mem hline)

/-- The rows of a node in a tree are those of the node on its own at the level of its place, and
they stand after the rows of the lines before the place. -/
theorem rows_isPrefix_of_walk {node inner : Node} {path : List String} {context : Context}
    {level : UInt64} {text : String} (hnames : OneLineNames node.names)
    (hrender : render (some node) level = .ok text)
    (hwalk : node.walk path = .ok (context, inner)) :
    ∃ own, render (some inner) (level + UInt64.ofNat context.depth) = .ok own ∧
      rows own <+: (rows text).drop context.linesBefore.length := by
  obtain ⟨-, rfl⟩ := Node.walk_eq_ok_iff.mp hwalk
  obtain ⟨hfits, own, hown, -⟩ := (render_fill_eq_ok_iff context inner level text).mp hrender
  have hplain : PlainLabels inner.outline := by
    have hwhole := Node.plainLabels_outline _ hnames
    rw [Context.outline_fill, plainLabels_append, plainLabels_append] at hwhole
    exact plainLabels_of_deepenBy hwhole.1.2
  have hrows : rows own = (deepenBy context.depth inner.outline).map (Line.row level.toNat) := by
    rw [eq_outlineText_of_render hown, rows_outlineText hplain,
      Context.toNat_level_add_depth (linesFit_append.mp hfits).1, map_row_deepenBy]
  refine ⟨own, hown, context.linesAfter.map (Line.row level.toNat), ?_⟩
  rw [hrows, rows_of_render hnames hrender, Context.outline_fill, List.append_assoc,
    List.map_append, List.drop_left' (List.length_map _), List.map_append]

end ProgramTree
