import ProgramTree.Proofs.PrinterWalk

/-!
# What the printer adds

The printer extends a text by the lines of the outline, each indented by its level and its depth,
or it fails because some line is too deep. One equation says both. It is shown by induction over
the tree: the outline of a form is its label followed by its children and its alternative, which is
also the order of the walk, and each of these parts adds its own lines.

Levels are words, but a child is visited only after the line of its parent was printed, and a
level at which a line can be printed is far from the greatest word.
-/

namespace ProgramTree

/-! ## Outlines by their parts -/

/-- Deepening no lines gives none. -/
@[simp]
theorem deepen_nil : deepen [] = [] := rfl

/-- The lines of an optional child are those of the child, if there is one. -/
theorem Node.flatMap_deepen_toList (node : Option Node) :
    node.toList.flatMap (fun child => deepen child.outline) =
      deepen (Node.outlineOptional node) := by
  cases node with
  | none => simp [Node.outlineOptional]
  | some node => simp [Node.outlineOptional]

/-- The outline of a form is its label, its deepened leading children and its alternative. -/
theorem Form.outline_eq (form : Form) :
    form.outline = ⟨0, form.label⟩ ::
      (form.leadingChildren.flatMap (fun child => deepen child.outline) ++
        elseLines form.alternative? ++ deepen (Node.outlineOptional form.alternative?)) := by
  cases form with
  | conditional condition thenBranch elseBranch =>
    simp only [Form.outline, leadingChildren, alternative?, List.flatMap_cons, List.flatMap_nil,
      List.append_nil]
  | _ =>
    simp [Form.outline, leadingChildren, alternative?, Node.flatMap_deepen_toList, elseLines,
      Node.outlineOptional]

/-- The outline of a form is its label, the deepened nodes in its places and its alternative. -/
theorem Form.outline_eq_places (form : Form) :
    form.outline = ⟨0, form.label⟩ ::
      (form.leadingPlaces.flatMap (fun place => deepen (Node.outlineOptional place)) ++
        (elseLines form.alternative? ++ deepen (Node.outlineOptional form.alternative?))) := by
  rw [form.outline_eq, form.leadingChildren_eq_flatMap, List.flatMap_assoc, List.append_assoc]
  simp only [Node.flatMap_deepen_toList]

/-- A property holds of the lines of a form if it holds of its own line, of the line before its
alternative and of the deepened lines of its children. -/
theorem Form.forall_mem_outline_iff {property : Line → Prop} {form : Form} :
    (∀ line ∈ form.outline, property line) ↔
      property ⟨0, form.label⟩ ∧ (∀ line ∈ elseLines form.alternative?, property line) ∧
        ∀ child ∈ form.children, ∀ line ∈ deepen child.outline, property line := by
  rw [form.outline_eq, ← Node.flatMap_deepen_toList, Form.children, List.forall_mem_cons,
    List.forall_mem_append, List.forall_mem_append, List.forall_mem_append,
    List.forall_mem_flatMap, List.forall_mem_flatMap]
  constructor
  · intro h
    obtain ⟨hlabel, ⟨hleading, helse⟩, halternative⟩ := h
    exact ⟨hlabel, helse, hleading, halternative⟩
  · intro h
    obtain ⟨hlabel, helse, hleading, halternative⟩ := h
    exact ⟨hlabel, ⟨hleading, helse⟩, halternative⟩

/-! ## The text of an outline -/

/-- The first level at which a line cannot be indented, the sixty-second power of two. -/
def levelLimit : Nat :=
  0x4000000000000000

/-- A line can be indented at the levels below the limit. -/
theorem indent_fits_iff {level : Nat} : 2 * level ≤ maxTextBytes ↔ level < levelLimit := by
  simp only [maxTextBytes, levelLimit]
  omega

/-- The text of a line of an outline that stands at a level. -/
def Line.text (level : Nat) (line : Line) : String :=
  String.ofList (List.replicate (2 * (level + line.depth)) ' ') ++ line.label ++ "\n"

/-- The text of an outline that stands at a level. -/
def outlineText (level : Nat) : List Line → String
  | [] => ""
  | line :: outline => line.text level ++ outlineText level outline

/-- The text of joined outlines is their joined texts. -/
theorem outlineText_append (level : Nat) (first second : List Line) :
    outlineText level (first ++ second) = outlineText level first ++ outlineText level second := by
  induction first with
  | nil => simp [outlineText]
  | cons line first ih => simp [outlineText, ih, String.append_assoc]

/-- Move an outline by a number of levels: every line stands so much deeper. -/
def deepenBy (levels : Nat) (outline : List Line) : List Line :=
  outline.map fun line => { line with depth := levels + line.depth }

/-- The children of a form stand one level deeper. -/
theorem deepen_eq_deepenBy (outline : List Line) : deepen outline = deepenBy 1 outline := by
  simp only [deepen, deepenBy, Nat.add_comm]

/-- Outlines that are equal once moved by a number of levels are equal. -/
theorem deepenBy_injective {levels : Nat} {first second : List Line}
    (h : deepenBy levels first = deepenBy levels second) : first = second := by
  refine List.map_inj_right ?_ |>.mp h
  rintro ⟨depth, label⟩ ⟨depth', label'⟩ hline
  obtain ⟨hdepth, rfl⟩ := Line.mk.inj hline
  obtain rfl : depth = depth' := Nat.add_left_cancel hdepth
  rfl

/-- A moved outline has the text of the outline at a level that is moved as far. -/
theorem outlineText_deepenBy (level levels : Nat) (outline : List Line) :
    outlineText level (deepenBy levels outline) = outlineText (level + levels) outline := by
  induction outline with
  | nil => rfl
  | cons line outline ih =>
    have hline : Line.text level { line with depth := levels + line.depth } =
        line.text (level + levels) := by
      rw [Line.text, Line.text, Nat.add_assoc]
    show Line.text level { line with depth := levels + line.depth } ++
        outlineText level (deepenBy levels outline) =
      line.text (level + levels) ++ outlineText (level + levels) outline
    rw [hline, ih]

/-! ## Outlines that fit -/

/-- Every line of an outline can be indented when the outline stands at a level. -/
def LinesFit (level : Nat) (outline : List Line) : Prop :=
  ∀ line ∈ outline, 2 * (level + line.depth) ≤ maxTextBytes

/-- Whether an outline fits can be checked. -/
instance (level : Nat) (outline : List Line) : Decidable (LinesFit level outline) :=
  inferInstanceAs (Decidable (∀ line ∈ outline, 2 * (level + line.depth) ≤ maxTextBytes))

/-- The empty outline fits everywhere. -/
theorem linesFit_nil (level : Nat) : LinesFit level [] :=
  List.forall_mem_nil _

/-- Joined outlines fit when each of them fits. -/
theorem linesFit_append {level : Nat} {first second : List Line} :
    LinesFit level (first ++ second) ↔ LinesFit level first ∧ LinesFit level second :=
  List.forall_mem_append

/-- An outline that starts at the base fits when its level and its other lines do. -/
theorem linesFit_cons_base {level : Nat} {label : String} {outline : List Line} :
    LinesFit level (⟨0, label⟩ :: outline) ↔ level < levelLimit ∧ LinesFit level outline := by
  have hbase : 2 * (level + 0) ≤ maxTextBytes ↔ level < levelLimit := indent_fits_iff
  rw [← hbase]
  exact List.forall_mem_cons

/-- A moved outline fits at a level when the outline fits as many levels further. -/
theorem linesFit_deepenBy {level levels : Nat} {outline : List Line} :
    LinesFit level (deepenBy levels outline) ↔ LinesFit (level + levels) outline := by
  simp only [LinesFit, deepenBy, List.forall_mem_map, Nat.add_assoc]

/-- The outline of a child fits when it does one level further. -/
theorem linesFit_deepen {level : Nat} {outline : List Line} :
    LinesFit level (deepen outline) ↔ LinesFit (level + 1) outline := by
  rw [deepen_eq_deepenBy, linesFit_deepenBy]

/-! ## Adding outlines to a text -/

/-- The outcome of adding an outline to a text: all of its lines, if every one can be indented. -/
def printed (out : String) (level : Nat) (outline : List Line) : Except RenderError String :=
  if LinesFit level outline then .ok (out ++ outlineText level outline)
  else .error .capacityOverflow

/-- Adding no lines leaves the text as it is. -/
theorem printed_nil (out : String) (level : Nat) : printed out level [] = .ok out := by
  rw [printed, if_pos (linesFit_nil level), outlineText, String.append_empty]

/-- Adding one outline after another is adding both. -/
theorem printed_bind (out : String) (level : Nat) (first second : List Line) :
    (printed out level first >>= fun out => printed out level second) =
      printed out level (first ++ second) := by
  unfold printed
  by_cases hfirst : LinesFit level first
  · rw [if_pos hfirst]
    show (if LinesFit level second then
      Except.ok (out ++ outlineText level first ++ outlineText level second)
      else Except.error RenderError.capacityOverflow) = _
    by_cases hsecond : LinesFit level second
    · rw [if_pos hsecond, if_pos (linesFit_append.mpr ⟨hfirst, hsecond⟩), outlineText_append,
        String.append_assoc]
    · rw [if_neg hsecond, if_neg fun h => hsecond (linesFit_append.mp h).2]
  · rw [if_neg hfirst, if_neg fun h => hfirst (linesFit_append.mp h).1]
    rfl

/-- A loop whose steps add outlines adds the joined outlines. -/
theorem foldlM_eq_printed {α : Type} {level : Nat} {items : List α} {outline : α → List Line}
    {step : String → α → Except RenderError String}
    (hstep : ∀ item ∈ items, ∀ out, step out item = printed out level (outline item))
    (out : String) : items.foldlM step out = printed out level (items.flatMap outline) := by
  induction items generalizing out with
  | nil => exact (printed_nil out level).symm
  | cons item items ih =>
    have hitems := ih fun later hlater => hstep later (List.mem_cons_of_mem item hlater)
    rw [List.foldlM_cons, hstep item List.mem_cons_self, funext hitems, printed_bind,
      List.flatMap_cons]

/-- An outline one level further is added like the deepened outline. -/
theorem printed_deepen (out : String) (level : Nat) (outline : List Line) :
    printed out (level + 1) outline = printed out level (deepen outline) := by
  simp only [printed, deepen_eq_deepenBy, linesFit_deepenBy, outlineText_deepenBy]

/-- A line is added at every level that can be indented. -/
theorem pushLine_eq (out : String) (level : UInt64) (label : String) :
    pushLine out level label = printed out level.toNat [⟨0, label⟩] := by
  have hfits : LinesFit level.toNat [⟨0, label⟩] ↔ 2 * level.toNat ≤ maxTextBytes :=
    List.forall_mem_singleton
  unfold pushLine indent printed
  by_cases hlevel : 2 * level.toNat ≤ maxTextBytes
  · rw [if_pos (hfits.mpr hlevel)]
    simp only [if_pos hlevel]
    simp [outlineText, Line.text, bind, Except.bind, pure, Except.pure, String.append_assoc]
  · rw [if_neg (mt hfits.mp hlevel)]
    simp only [if_neg hlevel]
    rfl

/-- The level of a child is one more than that of a parent whose line was printed. -/
theorem toNat_succ_level {level : UInt64} (h : level.toNat < levelLimit) :
    (level + 1).toNat = level.toNat + 1 := by
  rw [UInt64.toNat_add]
  exact Nat.mod_eq_of_lt (by simp only [levelLimit] at h; simp; omega)

/-- What follows the line of a form is printed only if that line was. -/
theorem pushLine_bind (out : String) (level : UInt64) (label : String)
    {next : String → Except RenderError String} {outline : List Line}
    (h : level.toNat < levelLimit → ∀ out, next out = printed out level.toNat outline) :
    (pushLine out level label >>= next) = printed out level.toNat (⟨0, label⟩ :: outline) := by
  rw [pushLine_eq]
  by_cases hlevel : level.toNat < levelLimit
  · rw [funext (h hlevel), printed_bind]
    rfl
  · rw [printed, printed, if_neg fun hfits => hlevel (linesFit_cons_base.mp hfits).1,
      if_neg fun hfits => hlevel (linesFit_cons_base.mp hfits).1]
    rfl

/-! ## Adding trees to a text -/

/-- Printing a node adds its outline to any text at any level. -/
def PrintsOutline (node : Node) : Prop :=
  ∀ (out : String) (level : UInt64),
    textPrinter.pushNode out level node = printed out level.toNat node.outline

/-- A child is added one level deeper than its parent. -/
theorem PrintsOutline.pushNode_child {node : Node} (h : PrintsOutline node) {level : UInt64}
    (hlevel : level.toNat < levelLimit) (out : String) :
    textPrinter.pushNode out (level + 1) node =
      printed out level.toNat (deepen node.outline) := by
  rw [h, toNat_succ_level hlevel, printed_deepen]

/-- What stands in a place of a form is added one level deeper; an empty place adds nothing. -/
theorem pushOptional_place {level : UInt64} (hlevel : level.toNat < levelLimit)
    {place : Option Node} (h : ∀ child, place = some child → PrintsOutline child) (out : String) :
    textPrinter.pushOptional out (level + 1) place =
      printed out level.toNat (deepen (Node.outlineOptional place)) := by
  cases place with
  | none => exact (printed_nil out level.toNat).symm
  | some child => exact (h child rfl).pushNode_child hlevel out

/-- An alternative is added after its line; an absent one adds nothing. -/
theorem pushElse_eq {elseBranch : Option Node}
    (h : ∀ child, elseBranch = some child → PrintsOutline child) (out : String) (level : UInt64) :
    textPrinter.pushElse out level elseBranch = printed out level.toNat
      (elseLines elseBranch ++ deepen (Node.outlineOptional elseBranch)) := by
  cases elseBranch with
  | none => exact (printed_nil out level.toNat).symm
  | some child => exact pushLine_bind out level elseLabel (h child rfl).pushNode_child

/-- Printing a form adds its outline if printing its children adds theirs. -/
theorem pushForm_eq_printed {form : Form} (h : ∀ child ∈ form.children, PrintsOutline child)
    (out : String) (level : UInt64) :
    textPrinter.pushForm out level form = printed out level.toNat form.outline := by
  rw [Printer.pushForm_eq, form.outline_eq_places]
  apply pushLine_bind
  intro hlevel out
  have hplaces := foldlM_eq_printed (fun place hplace => pushOptional_place hlevel
    fun child hchild => h child (Form.mem_children_of_mem_leadingPlaces (hchild ▸ hplace))) out
  have helse := pushElse_eq fun child hchild => h child (Form.mem_children_of_alternative? hchild)
  rw [← printed_bind, ← hplaces]
  simp only [← helse]
  rfl

/-- Printing a chain adds its outline, or fails if some line cannot be indented. -/
theorem Node.printsOutline (node : Node) : PrintsOutline node := by
  induction node using Node.induction_by_children with
  | step node ih =>
    intro out level
    rw [Printer.pushNode_eq_foldlM, node.outline_eq_flatMap]
    apply foldlM_eq_printed
    intro form hform out
    exact pushForm_eq_printed (ih form hform) out level

/-- A node is printed as the text of its outline, if the outline fits. -/
theorem render_some_eq (node : Node) (level : UInt64) :
    render (some node) level = printed "" level.toNat node.outline :=
  node.printsOutline "" level

/-- The text of a printed node is that of its outline. -/
theorem eq_outlineText_of_render {node : Node} {level : UInt64} {text : String}
    (h : render (some node) level = .ok text) : text = outlineText level.toNat node.outline := by
  rw [render_some_eq, printed] at h
  split at h
  · rw [← Except.ok.inj h, String.empty_append]
  · cases h

end ProgramTree
