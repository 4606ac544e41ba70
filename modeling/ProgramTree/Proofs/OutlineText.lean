import ProgramTree.Proofs.TreeSums
import ProgramTree.Proofs.UniqueReading

/-!
# The text of an outline is read in one way

A label is plain when it holds no line feed and does not start with a space. The text of a line
with a plain label is read in one way: its indent is the run of spaces before the label, and its
label ends at the line feed. So the text of an outline with plain labels determines its lines.

The labels of a tree are plain when no name in it holds a line feed. Such names may still hold
spaces, colons or the words that labels start with.
-/

namespace ProgramTree

/-- A label that keeps to one line and shows where the indent ends. -/
def IsPlain (label : String) : Prop :=
  '\n' ∉ label.toList ∧ label.toList.head? ≠ some ' '

/-- Plainness of a label can be checked. -/
instance (label : String) : Decidable (IsPlain label) :=
  inferInstanceAs (Decidable ('\n' ∉ label.toList ∧ label.toList.head? ≠ some ' '))

/-- All labels of an outline are plain. -/
def PlainLabels (outline : List Line) : Prop :=
  ∀ line ∈ outline, IsPlain line.label

/-- An outline has plain labels when its first line and the others have. -/
theorem plainLabels_cons {line : Line} {outline : List Line} :
    PlainLabels (line :: outline) ↔ IsPlain line.label ∧ PlainLabels outline :=
  List.forall_mem_cons

/-- Joined outlines have plain labels when each of them has. -/
theorem plainLabels_append {first second : List Line} :
    PlainLabels (first ++ second) ↔ PlainLabels first ∧ PlainLabels second :=
  List.forall_mem_append

/-- Moving an outline keeps its labels plain. -/
theorem PlainLabels.deepenBy {outline : List Line} (h : PlainLabels outline) (levels : Nat) :
    PlainLabels (deepenBy levels outline) := by
  intro line hline
  obtain ⟨original, horiginal, rfl⟩ := List.mem_map.mp hline
  exact h original horiginal

/-- Deepening an outline keeps its labels plain. -/
theorem PlainLabels.deepen {outline : List Line} (h : PlainLabels outline) :
    PlainLabels (deepen outline) := by
  rw [deepen_eq_deepenBy]
  exact h.deepenBy 1

/-- A line with a plain label is told from what follows it. -/
theorem Line.text_append_inj {first second : Line} {rest other : List Char}
    (hfirst : IsPlain first.label) (hsecond : IsPlain second.label)
    (h : (first.text 0).toList ++ rest = (second.text 0).toList ++ other) :
    first = second ∧ rest = other := by
  obtain ⟨depth, label⟩ := first
  obtain ⟨depth', label'⟩ := second
  simp only [Line.text, Nat.zero_add, String.toList_append, String.toList_ofList,
    List.append_assoc] at h
  -- The label ends the run of spaces, also when it is empty and the line feed follows.
  have hlabel {label : String} (hplain : IsPlain label) (rest : List Char) :
      ∀ character ∈ (label.toList ++ ("\n".toList ++ rest)).head?, ¬ character = ' ' := by
    cases hcharacters : label.toList with
    | nil => simp
    | cons character tail => simpa [hcharacters] using hplain.2
  obtain ⟨hindent, hlabels⟩ := run_append_inj (· = ' ') (fun _ => List.eq_of_mem_replicate)
    (fun _ => List.eq_of_mem_replicate) (hlabel hfirst rest) (hlabel hsecond other) h
  obtain ⟨hcharacters, hrests⟩ := run_append_inj (· ≠ '\n')
    (fun character hmem heq => hfirst.1 (heq ▸ hmem))
    (fun character hmem heq => hsecond.1 (heq ▸ hmem)) (by simp) (by simp) hlabels
  have hdepth : 2 * depth = 2 * depth' := by simpa using congrArg List.length hindent
  obtain rfl : depth = depth' := by omega
  obtain rfl : label = label' := String.toList_inj.mp hcharacters
  exact ⟨rfl, List.append_cancel_left hrests⟩

/-- Outlines with plain labels and one text are equal. -/
theorem outlineText_zero_inj {first second : List Line}
    (hfirst : PlainLabels first) (hsecond : PlainLabels second)
    (h : (outlineText 0 first).toList = (outlineText 0 second).toList) : first = second := by
  induction first generalizing second with
  | nil =>
    cases second with
    | nil => rfl
    | cons line second => simp [outlineText, Line.text] at h
  | cons line first ih =>
    cases second with
    | nil => simp [outlineText, Line.text] at h
    | cons line' second =>
      rw [outlineText, outlineText, String.toList_append, String.toList_append] at h
      rw [plainLabels_cons] at hfirst hsecond
      obtain ⟨rfl, htail⟩ := Line.text_append_inj hfirst.1 hsecond.1 h
      rw [ih hfirst.2 hsecond.2 htail]

/-- Outlines with plain labels and one text have their lines at the same indents. -/
theorem outlineText_inj {level level' : Nat} {first second : List Line}
    (hfirst : PlainLabels first) (hsecond : PlainLabels second)
    (h : outlineText level first = outlineText level' second) :
    deepenBy level first = deepenBy level' second := by
  rw [← Nat.zero_add level, ← Nat.zero_add level', ← outlineText_deepenBy,
    ← outlineText_deepenBy] at h
  exact outlineText_zero_inj (hfirst.deepenBy level) (hsecond.deepenBy level')
    (congrArg String.toList h)

/-! ## The labels of a tree -/

/-- No name of a list holds a line feed. -/
def OneLineNames (names : List String) : Prop :=
  ∀ name ∈ names, '\n' ∉ name.toList

/-- Whether names hold line feeds can be checked. -/
instance (names : List String) : Decidable (OneLineNames names) :=
  inferInstanceAs (Decidable (∀ name ∈ names, '\n' ∉ name.toList))

/-- A label that shows a text without line feeds after a plain start is plain. -/
theorem isPlain_append {start shown : String} (hstart : IsPlain start) (hne : start.toList ≠ [])
    (hshown : '\n' ∉ shown.toList) : IsPlain (start ++ shown) := by
  constructor
  · rw [String.toList_append, List.mem_append]
    exact not_or.mpr ⟨hstart.1, hshown⟩
  · rw [String.toList_append, List.head?_append_of_ne_nil _ hne]
    exact hstart.2

/-- A numeral holds no line feed. -/
theorem lineFeed_notMem_repr (value : Int) : '\n' ∉ value.repr.toList := by
  intro h
  exact absurd (isNumeral_of_mem_repr h) (by decide)

/-- The label of a form is plain if the name it carries holds no line feed. -/
theorem Form.isPlain_label {form : Form} (h : ∀ name ∈ form.name?, '\n' ∉ name.toList) :
    IsPlain form.label := by
  cases form with
  | integer value => exact isPlain_append (by decide) (by decide) (lineFeed_notMem_repr _)
  | reference name => exact isPlain_append (by decide) (by decide) (h name rfl)
  | binary operator left right =>
    exact isPlain_append (by decide) (by decide) (lineFeed_notMem_repr _)
  | unary operator operand =>
    exact isPlain_append (by decide) (by decide) (lineFeed_notMem_repr _)
  | assign name value => exact isPlain_append (by decide) (by decide) (h name rfl)
  | declare name initializer => exact isPlain_append (by decide) (by decide) (h name rfl)
  | conditional condition thenBranch elseBranch => exact (by decide : IsPlain "If")
  | loop condition body => exact (by decide : IsPlain "While")
  | block body => exact (by decide : IsPlain "Block")

/-- The line that announces an alternative has a plain label. -/
theorem plainLabels_elseLines (elseBranch : Option Node) : PlainLabels (elseLines elseBranch) := by
  cases elseBranch with
  | none => exact List.forall_mem_nil _
  | some node => exact List.forall_mem_singleton.mpr (by decide : IsPlain elseLabel)

/-- The labels of a form are plain if the name it carries holds no line feed and the labels of
its children are plain. -/
theorem Form.plainLabels_outline {form : Form} (hname : ∀ name ∈ form.name?, '\n' ∉ name.toList)
    (hchildren : ∀ child ∈ form.children, PlainLabels child.outline) :
    PlainLabels form.outline :=
  Form.forall_mem_outline_iff.mpr ⟨Form.isPlain_label hname,
    plainLabels_elseLines form.alternative?,
    fun child hchild => (hchildren child hchild).deepen⟩

/-- The labels of a tree are plain if the names in it hold no line feed. -/
theorem Node.plainLabels_outline (node : Node) (h : OneLineNames node.names) :
    PlainLabels node.outline := by
  induction node using Node.induction_by_children with
  | step node ih =>
    rw [OneLineNames, node.names_eq_flatMap, List.forall_mem_flatMap] at h
    rw [PlainLabels, node.outline_eq_flatMap, List.forall_mem_flatMap]
    intro form hform
    have hnames := h form hform
    rw [form.names_eq, List.forall_mem_append, List.forall_mem_flatMap] at hnames
    apply Form.plainLabels_outline
    · intro name hname
      exact hnames.1 name (Option.mem_toList.mpr hname)
    · intro child hchild
      exact ih form hform child hchild (hnames.2 child hchild)

end ProgramTree
