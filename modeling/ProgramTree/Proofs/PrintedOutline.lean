import ProgramTree.Proofs.Printing
import ProgramTree.Tree.Measure

/-!
# The printer follows the outline

An outline fits at a level when each of its lines can be indented there. Adding an optional node
to a text succeeds exactly when its outline fits, and then the text is extended by the lines of
the outline; what stood in the text before is kept.

The height of a tree is only another way to say that its outline fits. Both are described by the
parts of a form: a form fits if its level does and its children fit one level further, and it is
low enough if its level is and its children are low enough from one level further.
-/

namespace ProgramTree

/-! ## Heights by the parts of a form -/

/-- The deepest descendant through an optional child is within a limit if the level is and the
child, if there is one, is low enough from one level further. -/
theorem Node.add_reachOptional_lt_iff (optional : Option Node) (level limit : Nat) :
    level + Node.reachOptional optional < limit ↔
      level < limit ∧ ∀ child ∈ optional.toList, level + 1 + child.height < limit := by
  cases optional with
  | none => simp [Node.reachOptional]
  | some node =>
    simp only [Node.reachOptional, Option.toList_some, List.forall_mem_singleton]
    omega

/-- The deepest descendant of a form is within a limit if the level is and the children are low
enough from one level further. -/
theorem Form.add_height_lt_iff (form : Form) (level limit : Nat) :
    level + form.height < limit ↔
      level < limit ∧ ∀ child ∈ form.children, level + 1 + child.height < limit := by
  -- A maximum is within the limit if both sides are, and an optional child counts as above.
  cases form <;>
    simp only [Form.height, Form.children, Form.leadingChildren, Form.alternative?,
      Option.toList_none, List.append_nil, List.forall_mem_append, List.forall_mem_cons,
      ← Nat.add_max_add_left, Nat.max_lt, Node.add_reachOptional_lt_iff]
  all_goals grind

/-- The entries of a chain are within a limit if each of its forms is. -/
theorem Node.add_height_lt_iff (node : Node) (level limit : Nat) :
    level + node.height < limit ↔ ∀ form ∈ node.toList, level + form.height < limit := by
  induction node with
  | last head => simp [Node.height]
  | link head next ih =>
    rw [Node.height, Chain.toList_link, List.forall_mem_cons, ← ih]
    omega

/-! ## Outlines that fit -/

/-- The line that announces an alternative fits at the level of its conditional. -/
theorem linesFit_elseLines {level : Nat} (h : level < levelLimit) (elseBranch : Option Node) :
    LinesFit level (elseLines elseBranch) := by
  cases elseBranch with
  | none => exact linesFit_nil level
  | some node => exact linesFit_cons_base.mpr ⟨h, linesFit_nil level⟩

/-- The outline of a form fits if its level can be indented and its children fit one level
further. -/
theorem Form.linesFit_outline_iff {form : Form} {level : Nat} :
    LinesFit level form.outline ↔
      level < levelLimit ∧ ∀ child ∈ form.children, LinesFit (level + 1) child.outline := by
  constructor
  · intro h
    obtain ⟨hlabel, -, hchildren⟩ := Form.forall_mem_outline_iff.mp h
    exact ⟨indent_fits_iff.mp hlabel,
      fun child hchild => linesFit_deepen.mp (hchildren child hchild)⟩
  · -- The line before the alternative asks for nothing that the first line does not ask for.
    intro h
    obtain ⟨hlevel, hchildren⟩ := h
    exact Form.forall_mem_outline_iff.mpr ⟨indent_fits_iff.mpr hlevel,
      linesFit_elseLines hlevel form.alternative?,
      fun child hchild => linesFit_deepen.mpr (hchildren child hchild)⟩

/-- The outline of a chain fits at the levels that leave room for its height. -/
theorem Node.linesFit_outline_iff (node : Node) (level : Nat) :
    LinesFit level node.outline ↔ level + node.height < levelLimit := by
  induction node using Node.induction_by_children generalizing level with
  | step node ih =>
    rw [LinesFit, node.outline_eq_flatMap, List.forall_mem_flatMap, node.add_height_lt_iff]
    apply forall₂_congr
    intro form hform
    rw [form.add_height_lt_iff]
    refine Form.linesFit_outline_iff.trans (and_congr_right fun _ => forall₂_congr ?_)
    intro child hchild
    exact ih form hform child hchild (level + 1)

/-! ## Adding outlines to a text -/

/-- The outline of a node joins the outlines of the forms that its siblings carry. -/
theorem Node.outline_eq_flatMap_siblings (node : Node) :
    node.outline = node.siblings.remaining.flatMap fun sibling => sibling.head.outline := by
  rw [Node.outline_eq_flatMap, ← node.map_head_suffixes, List.flatMap_map]
  rfl

/-- Adding an optional node succeeds when its outline fits, and then adds the lines of the
outline to the text. -/
theorem Node.pushOptional_eq_ok_iff (out : String) (level : UInt64) (node : Option Node)
    (result : String) :
    Node.pushOptional out level node = .ok result ↔
      LinesFit level.toNat (Node.outlineOptional node) ∧
        result = out ++ outlineText level.toNat (Node.outlineOptional node) := by
  have hprinted : Node.pushOptional out level node =
      printed out level.toNat (Node.outlineOptional node) := by
    cases node with
    | none => exact (printed_nil out level.toNat).symm
    | some node => exact node.printsOutline out level
  rw [hprinted, printed]
  by_cases hfits : LinesFit level.toNat (Node.outlineOptional node)
  · simp [hfits, eq_comm]
  · simp [hfits]

/-- An optional node is printed when its outline fits, as the text of the outline. -/
theorem render_eq_ok_iff (node : Option Node) (level : UInt64) (text : String) :
    render node level = .ok text ↔
      LinesFit level.toNat (Node.outlineOptional node) ∧
        text = outlineText level.toNat (Node.outlineOptional node) := by
  rw [render, Node.pushOptional_eq_ok_iff, String.empty_append]

/-- The text of an outline is empty only if the outline has no lines. -/
theorem outlineText_eq_empty_iff {level : Nat} {outline : List Line} :
    outlineText level outline = "" ↔ outline = [] := by
  cases outline with
  | nil => simp [outlineText]
  | cons line outline => simp [outlineText, Line.text]

/-- An optional tree has no lines only if it is absent. -/
theorem Node.outlineOptional_eq_nil_iff {node : Option Node} :
    Node.outlineOptional node = [] ↔ node = none := by
  cases node with
  | none => simp [Node.outlineOptional]
  | some node =>
    cases node with
    | last head => simp [Node.outlineOptional, Node.outline, Form.outline_eq]
    | link head next => simp [Node.outlineOptional, Node.outline, Form.outline_eq]

/-- Every tree has lines. -/
theorem Node.outline_ne_nil (node : Node) : node.outline ≠ [] := by
  have hpresent := mt Node.outlineOptional_eq_nil_iff.mp (Option.some_ne_none node)
  rwa [Node.outlineOptional] at hpresent

/-- The printer refines the outline.

The outline of a chain joins those of its forms; the outline of a form is its label at the base
followed by its children one level deeper, with a line at the base before an alternative. Adding
an optional node to any text succeeds exactly when every line of the outline can be indented, and
leaves that text followed by the lines. Printing is the case of the empty text, gives nothing for
an absent node only, and displaying a node is printing it at the left margin. -/
theorem push_refines_outline :
    (∀ node : Node,
      node.outline = node.siblings.remaining.flatMap fun sibling => sibling.head.outline) ∧
    (∀ form : Form, form.outline = ⟨0, form.label⟩ ::
      (form.leadingChildren.flatMap (fun child => deepen child.outline) ++
        elseLines form.alternative? ++ deepen (Node.outlineOptional form.alternative?))) ∧
    (∀ (out : String) (level : UInt64) (node : Option Node) (result : String),
      Node.pushOptional out level node = .ok result ↔
        LinesFit level.toNat (Node.outlineOptional node) ∧
          result = out ++ outlineText level.toNat (Node.outlineOptional node)) ∧
    (∀ (node : Option Node) (level : UInt64) (text : String),
      render node level = .ok text ↔
        LinesFit level.toNat (Node.outlineOptional node) ∧
          text = outlineText level.toNat (Node.outlineOptional node)) ∧
    (∀ (node : Option Node) (level : UInt64), render node level = .ok "" ↔ node = none) ∧
    ∀ node : Node, node.display = render (some node) 0 := by
  refine ⟨Node.outline_eq_flatMap_siblings, Form.outline_eq, Node.pushOptional_eq_ok_iff,
    render_eq_ok_iff, ?_, fun _ => rfl⟩
  intro node level
  rw [render_eq_ok_iff, eq_comm (a := ""), outlineText_eq_empty_iff,
    Node.outlineOptional_eq_nil_iff]
  constructor
  · rintro ⟨-, habsent⟩
    exact habsent
  · rintro rfl
    exact ⟨linesFit_nil _, rfl⟩

end ProgramTree
