import ProgramTree.Proofs.Equality
import ProgramTree.Proofs.MergedOutline
import ProgramTree.Proofs.OutlineText

/-!
# What a printed text says of its tree

A printed text determines the level it was printed at and the merged tree, and nothing more: trees
that are the same once merged are printed alike. The tree itself is determined when no child that
shares its place with another carries a chain, because the boundary between the two can then be
counted out.
-/

namespace ProgramTree

/-! ## Trees with chains in blocks only -/

/-- Whether nothing is linked after a node. -/
def Node.isAlone (node : Node) : Bool :=
  node.next?.isNone

mutual

/-- Whether no operand, condition, branch, value or loop body below a form has anything linked
after it. Only the statements of blocks may form chains. -/
def Form.childrenAlone : Form → Bool
  | .integer _ => true
  | .reference _ => true
  | .binary _ left right =>
    Node.isAlone left && Node.isAlone right && Node.childrenAlone left &&
      Node.childrenAlone right
  | .unary _ operand => Node.isAlone operand && Node.childrenAlone operand
  | .assign _ value => Node.isAlone value && Node.childrenAlone value
  | .declare _ initializer =>
    initializer.all Node.isAlone && Node.childrenAloneOptional initializer
  | .conditional condition thenBranch elseBranch =>
    Node.isAlone condition && Node.isAlone thenBranch && elseBranch.all Node.isAlone &&
      Node.childrenAlone condition && Node.childrenAlone thenBranch &&
      Node.childrenAloneOptional elseBranch
  | .loop condition body =>
    Node.isAlone condition && Node.isAlone body && Node.childrenAlone condition &&
      Node.childrenAlone body
  | .block body => Node.childrenAloneOptional body

/-- Whether an optional chain has only forms whose children are alone. -/
def Node.childrenAloneOptional : Option Node → Bool
  | none => true
  | some node => Node.childrenAlone node

/-- Whether a chain has only forms whose children are alone. -/
def Node.childrenAlone : Node → Bool
  | .last head => Form.childrenAlone head
  | .link head next => Form.childrenAlone head && Node.childrenAlone next

end

/-- A node on its own merges to one form. -/
theorem Node.length_merge_of_isAlone {node : Node} (h : node.isAlone = true) :
    node.merge.length = 1 := by
  cases node with
  | last head => rw [Node.merge, List.length_singleton]
  | link head next => cases h

/-- Two children that run together are told apart if the first is on its own. -/
theorem Node.merge_append_inj {left right left' right' : Node} (hleft : left.isAlone = true)
    (hleft' : left'.isAlone = true)
    (h : left.merge ++ right.merge = left'.merge ++ right'.merge) :
    left.merge = left'.merge ∧ right.merge = right'.merge :=
  List.append_inj h
    ((Node.length_merge_of_isAlone hleft).trans (Node.length_merge_of_isAlone hleft').symm)

/-- A chain merges to at least one form. -/
theorem Node.merge_ne_nil (node : Node) : node.merge ≠ [] := by
  cases node with
  | last head => simp [Node.merge]
  | link head next => simp [Node.merge]

/-- An absent child is told from a present one, although it is merged to no forms. -/
theorem Node.mergeOptional_eq_of_getD {first second : Option Node}
    (h : (Node.mergeOptional first).getD [] = (Node.mergeOptional second).getD []) :
    Node.mergeOptional first = Node.mergeOptional second := by
  cases first with
  | none =>
    cases second with
    | none => rfl
    | some node =>
      simp only [Node.mergeOptional, Option.getD_none, Option.getD_some] at h
      exact absurd h.symm node.merge_ne_nil
  | some node =>
    cases second with
    | none =>
      simp only [Node.mergeOptional, Option.getD_none, Option.getD_some] at h
      exact absurd h node.merge_ne_nil
    | some other =>
      simp only [Node.mergeOptional, Option.getD_some] at h
      rw [Node.mergeOptional, Node.mergeOptional, h]

mutual

/-- Forms whose children are alone are equal if their merged forms are. -/
theorem Form.merge_injective : ∀ first second : Form, first.childrenAlone = true →
    second.childrenAlone = true → first.merge = second.merge → first = second
  | .integer value, second, _, _, h => by
    cases second with
    | integer other => simpa [Form.merge] using h
    | _ => simp [Form.merge] at h
  | .reference name, second, _, _, h => by
    cases second with
    | reference other => simpa [Form.merge] using h
    | _ => simp [Form.merge] at h
  | .binary operator left right, second, hfirst, hsecond, h => by
    cases second with
    | binary other otherLeft otherRight =>
      simp only [Form.childrenAlone, Bool.and_eq_true] at hfirst hsecond
      obtain ⟨⟨⟨halone, -⟩, hleft⟩, hright⟩ := hfirst
      obtain ⟨⟨⟨halone', -⟩, hleft'⟩, hright'⟩ := hsecond
      simp only [Form.merge, Merged.binary.injEq] at h
      obtain ⟨hmerge, hmerge'⟩ := Node.merge_append_inj halone halone' h.2
      rw [h.1, Node.merge_injective left otherLeft hleft hleft' hmerge,
        Node.merge_injective right otherRight hright hright' hmerge']
    | _ => simp [Form.merge] at h
  | .unary operator operand, second, hfirst, hsecond, h => by
    cases second with
    | unary other otherOperand =>
      simp only [Form.childrenAlone, Bool.and_eq_true] at hfirst hsecond
      simp only [Form.merge, Merged.unary.injEq] at h
      rw [h.1, Node.merge_injective operand otherOperand hfirst.2 hsecond.2 h.2]
    | _ => simp [Form.merge] at h
  | .assign name value, second, hfirst, hsecond, h => by
    cases second with
    | assign other otherValue =>
      simp only [Form.childrenAlone, Bool.and_eq_true] at hfirst hsecond
      simp only [Form.merge, Merged.assign.injEq] at h
      rw [h.1, Node.merge_injective value otherValue hfirst.2 hsecond.2 h.2]
    | _ => simp [Form.merge] at h
  | .declare name initializer, second, hfirst, hsecond, h => by
    cases second with
    | declare other otherInitializer =>
      simp only [Form.childrenAlone, Bool.and_eq_true] at hfirst hsecond
      simp only [Form.merge, Merged.declare.injEq] at h
      rw [h.1, Node.mergeOptional_injective initializer otherInitializer hfirst.2 hsecond.2
        (Node.mergeOptional_eq_of_getD h.2)]
    | _ => simp [Form.merge] at h
  | .conditional condition thenBranch elseBranch, second, hfirst, hsecond, h => by
    cases second with
    | conditional otherCondition otherThen otherElse =>
      simp only [Form.childrenAlone, Bool.and_eq_true] at hfirst hsecond
      obtain ⟨⟨⟨⟨⟨halone, -⟩, -⟩, hcondition⟩, hthen⟩, helse⟩ := hfirst
      obtain ⟨⟨⟨⟨⟨halone', -⟩, -⟩, hcondition'⟩, hthen'⟩, helse'⟩ := hsecond
      simp only [Form.merge, Merged.conditional.injEq] at h
      obtain ⟨hmerge, hmerge'⟩ := Node.merge_append_inj halone halone' h.1
      rw [Node.merge_injective condition otherCondition hcondition hcondition' hmerge,
        Node.merge_injective thenBranch otherThen hthen hthen' hmerge',
        Node.mergeOptional_injective elseBranch otherElse helse helse' h.2]
    | _ => simp [Form.merge] at h
  | .loop condition body, second, hfirst, hsecond, h => by
    cases second with
    | loop otherCondition otherBody =>
      simp only [Form.childrenAlone, Bool.and_eq_true] at hfirst hsecond
      obtain ⟨⟨⟨halone, -⟩, hcondition⟩, hbody⟩ := hfirst
      obtain ⟨⟨⟨halone', -⟩, hcondition'⟩, hbody'⟩ := hsecond
      simp only [Form.merge, Merged.loop.injEq] at h
      obtain ⟨hmerge, hmerge'⟩ := Node.merge_append_inj halone halone' h
      rw [Node.merge_injective condition otherCondition hcondition hcondition' hmerge,
        Node.merge_injective body otherBody hbody hbody' hmerge']
    | _ => simp [Form.merge] at h
  | .block body, second, hfirst, hsecond, h => by
    cases second with
    | block otherBody =>
      simp only [Form.childrenAlone] at hfirst hsecond
      simp only [Form.merge, Merged.block.injEq] at h
      rw [Node.mergeOptional_injective body otherBody hfirst hsecond
        (Node.mergeOptional_eq_of_getD h)]
    | _ => simp [Form.merge] at h

/-- Optional chains of forms whose children are alone are equal if their merged forms are. -/
theorem Node.mergeOptional_injective : ∀ first second : Option Node,
    Node.childrenAloneOptional first = true → Node.childrenAloneOptional second = true →
      Node.mergeOptional first = Node.mergeOptional second → first = second
  | none, second, _, _, h => by
    cases second with
    | none => rfl
    | some other => simp [Node.mergeOptional] at h
  | some node, second, hfirst, hsecond, h => by
    cases second with
    | none => simp [Node.mergeOptional] at h
    | some other =>
      simp only [Node.childrenAloneOptional] at hfirst hsecond
      simp only [Node.mergeOptional, Option.some.injEq] at h
      rw [Node.merge_injective node other hfirst hsecond h]

/-- Chains of forms whose children are alone are equal if their merged forms are. -/
theorem Node.merge_injective : ∀ first second : Node, first.childrenAlone = true →
    second.childrenAlone = true → first.merge = second.merge → first = second
  | .last head, second, hfirst, hsecond, h => by
    cases second with
    | last other =>
      simp only [Node.childrenAlone] at hfirst hsecond
      simp only [Node.merge, List.cons.injEq, and_true] at h
      rw [Form.merge_injective head other hfirst hsecond h]
    | link other rest =>
      simp only [Node.merge, List.cons.injEq] at h
      exact absurd h.2.symm (Node.merge_ne_nil rest)
  | .link head next, second, hfirst, hsecond, h => by
    cases second with
    | last other =>
      simp only [Node.merge, List.cons.injEq] at h
      exact absurd h.2 (Node.merge_ne_nil next)
    | link other rest =>
      simp only [Node.childrenAlone, Bool.and_eq_true] at hfirst hsecond
      simp only [Node.merge, List.cons.injEq] at h
      rw [Form.merge_injective head other hfirst.1 hsecond.1 h.1,
        Node.merge_injective next rest hfirst.2 hsecond.2 h.2]

end

/-! ## Reading a printed text -/

/-- The outline of a tree starts at the base. -/
theorem Node.exists_outline_eq_cons (node : Node) :
    ∃ label outline, node.outline = ⟨0, label⟩ :: outline := by
  rw [Node.outline_eq_merge]
  cases hmerge : node.merge with
  | nil => exact absurd hmerge node.merge_ne_nil
  | cons form forms =>
    rw [Merged.outlineAll, Merged.outline_eq]
    exact ⟨_, _, rfl⟩

/-- Outlines of trees that are the same once moved to their levels have one level. -/
theorem Node.level_eq_of_deepenBy_outline {first second : Node} {level level' : Nat}
    (h : deepenBy level first.outline = deepenBy level' second.outline) : level = level' := by
  obtain ⟨label, outline, hfirst⟩ := first.exists_outline_eq_cons
  obtain ⟨label', outline', hsecond⟩ := second.exists_outline_eq_cons
  rw [hfirst, hsecond] at h
  exact (Line.mk.inj (List.cons.inj h).1).1

/-- A printed text determines the level and the merged tree, and is determined by them.

The names in the tree hold no line feeds, but may hold anything else. If in addition both trees
have chains in blocks and at the top only, trees with one text compare as the same. -/
theorem render_determines_merge {first second : Node} {level level' : UInt64}
    {text text' : String} (hfirst : OneLineNames first.names) (hsecond : OneLineNames second.names)
    (hrender : render (some first) level = .ok text)
    (hrender' : render (some second) level' = .ok text') :
    (text = text' ↔ level = level' ∧ first.merge = second.merge) ∧
      (first.childrenAlone = true → second.childrenAlone = true → text = text' →
        (first == second) = true) := by
  have hdetermines : text = text' ↔ level = level' ∧ first.merge = second.merge := by
    rw [eq_outlineText_of_render hrender, eq_outlineText_of_render hrender']
    constructor
    · intro h
      have hmoved := outlineText_inj (Node.plainLabels_outline first hfirst)
        (Node.plainLabels_outline second hsecond) h
      -- The first line of each tree stands at the base, so its indent shows the level.
      have hlevel := Node.level_eq_of_deepenBy_outline hmoved
      rw [hlevel] at hmoved
      exact ⟨UInt64.toNat_inj.mp hlevel,
        (Node.outline_eq_iff_merge_eq first second).mp (deepenBy_injective hmoved)⟩
    · rintro ⟨rfl, hmerge⟩
      rw [(Node.outline_eq_iff_merge_eq first second).mpr hmerge]
  refine ⟨hdetermines, fun halone halone' h => ?_⟩
  rw [beq_iff_eq]
  exact Node.merge_injective first second halone halone' (hdetermines.mp h).2

/-- Moving the boundary between a condition and its branch shows neither in the text nor in the
merged tree, whatever the names look like. -/
theorem render_determines_merge_across_boundary :
    let first := Node.conditional ((Node.reference "Else").append (Node.reference " : "))
      (Node.block none) (some (Node.reference "Int: 1"))
    let second := Node.conditional (Node.reference "Else")
      ((Node.reference " : ").append (Node.block none)) (some (Node.reference "Int: 1"))
    let text := "  If\n    Var: Else\n    Var:  : \n    Block\n  Else\n    Var: Int: 1\n"
    OneLineNames first.names ∧ OneLineNames second.names ∧
      render (some first) 1 = .ok text ∧ render (some second) 1 = .ok text ∧
      first.merge = second.merge ∧ (first == second) = false := by
  intro first second text
  have hfirst : OneLineNames first.names := by decide
  have hsecond : OneLineNames second.names := by decide
  have hrender : render (some first) 1 = .ok text := rfl
  have hrender' : render (some second) 1 = .ok text := rfl
  have hmerge := ((render_determines_merge hfirst hsecond hrender hrender').1.mp rfl).2
  exact ⟨hfirst, hsecond, hrender, hrender', hmerge, by decide⟩

end ProgramTree
