import ProgramTree.Outline.Render
import ProgramTree.Proofs.TreeInduction

/-!
# The walk of a printer

Every printer takes a form in the same way: first the line with its label, then its places for
children one after another, and last the alternative of a conditional with the line before it. A
chain is taken form by form.

Two printers are in step if related states stay related, at every line and before every child.
Then the two walks over any tree end alike: both succeed with related states or both fail with
related errors. A child is visited only after a line was added at the level of its parent, so what
is asked before a child is asked only of levels at which lines can be added.
-/

namespace ProgramTree

variable {ε ε' σ σ' τ τ' : Type}

/-! ## The walk by the parts of a form -/

/-- The places of a form for children in order, apart from that for the alternative of a
conditional. The places of initial values and of statements may be empty. -/
def Form.leadingPlaces : Form → List (Option Node)
  | .integer _ => []
  | .reference _ => []
  | .binary _ left right => [some left, some right]
  | .unary _ operand => [some operand]
  | .assign _ value => [some value]
  | .declare _ initializer => [initializer]
  | .conditional condition thenBranch _ => [some condition, some thenBranch]
  | .loop condition body => [some condition, some body]
  | .block body => [body]

/-- The leading children of a form are the nodes in its places. -/
theorem Form.leadingChildren_eq_flatMap (form : Form) :
    form.leadingChildren = form.leadingPlaces.flatMap Option.toList := by
  cases form <;> simp [Form.leadingChildren, Form.leadingPlaces]

/-- A node in a place of a form is a child. -/
theorem Form.mem_children_of_mem_leadingPlaces {form : Form} {child : Node}
    (h : some child ∈ form.leadingPlaces) : child ∈ form.children := by
  apply Form.mem_children_of_mem_leadingChildren
  rw [Form.leadingChildren_eq_flatMap]
  exact List.mem_flatMap.mpr ⟨some child, h, Option.mem_toList.mpr rfl⟩

/-- A form is printed as its label, its places and its alternative. -/
theorem Printer.pushForm_eq (printer : Printer ε σ) (out : σ) (level : UInt64) (form : Form) :
    printer.pushForm out level form = (do
      let out ← printer.line out level form.label
      let out ← form.leadingPlaces.foldlM (fun out place =>
        printer.visitChild out level (printer.pushOptional · · place)) out
      printer.pushElse out level form.alternative?) := by
  cases form <;>
    simp [Printer.pushForm, Form.leadingPlaces, Form.alternative?, Printer.pushOptional,
      Printer.pushElse]

/-- A chain is printed form by form. -/
theorem Printer.pushNode_eq_foldlM (printer : Printer ε σ) (out : σ) (level : UInt64)
    (node : Node) :
    printer.pushNode out level node =
      node.toList.foldlM (fun out form => printer.pushForm out level form) out := by
  induction node generalizing out with
  | last head => simp [Printer.pushNode]
  | link head next ih => simp [Printer.pushNode, ih]

/-! ## Printers in step -/

/-- Two outcomes are both successes with related states or both failures with related errors. -/
inductive EndAlike (errors : ε → ε' → Prop) (states : σ → σ' → Prop) :
    Except ε σ → Except ε' σ' → Prop where
  | ok {out : σ} {out' : σ'} (h : states out out') : EndAlike errors states (.ok out) (.ok out')
  | error {error : ε} {error' : ε'} (h : errors error error') :
    EndAlike errors states (.error error) (.error error')

/-- What follows outcomes that are alike ends alike if it does from related states. -/
theorem EndAlike.bind {errors : ε → ε' → Prop} {states : σ → σ' → Prop}
    {states' : τ → τ' → Prop} {outcome : Except ε σ} {outcome' : Except ε' σ'}
    {next : σ → Except ε τ} {next' : σ' → Except ε' τ'}
    (h : EndAlike errors states outcome outcome')
    (hnext : ∀ out out', states out out' → EndAlike errors states' (next out) (next' out')) :
    EndAlike errors states' (outcome >>= next) (outcome' >>= next') := by
  cases h with
  | ok hstates => exact hnext _ _ hstates
  | error herrors => exact .error herrors

/-- Two loops over the same items end alike if each of their steps does. -/
theorem EndAlike.foldlM {α : Type} {errors : ε → ε' → Prop} {states : σ → σ' → Prop}
    {items : List α} {step : σ → α → Except ε σ} {step' : σ' → α → Except ε' σ'}
    (hstep : ∀ item ∈ items, ∀ out out', states out out' →
      EndAlike errors states (step out item) (step' out' item))
    {out : σ} {out' : σ'} (h : states out out') :
    EndAlike errors states (items.foldlM step out) (items.foldlM step' out') := by
  induction items generalizing out out' with
  | nil => exact .ok h
  | cons item items ih =>
    rw [List.foldlM_cons, List.foldlM_cons]
    apply (hstep item List.mem_cons_self out out' h).bind
    intro next next' hnext
    exact ih (fun later hlater => hstep later (List.mem_cons_of_mem item hlater)) hnext

/-- Related states stay related at a line, which can be added only at certain levels, and before
a child of a form at such a level. -/
structure Printer.InStep (printer : Printer ε σ) (printer' : Printer ε' σ')
    (errors : ε → ε' → Prop) (states : σ → σ' → Prop) (reached : UInt64 → Prop) : Prop where
  line : ∀ out out', states out out' → ∀ level label,
    EndAlike errors (fun out out' => states out out' ∧ reached level)
      (printer.line out level label) (printer'.line out' level label)
  descend : ∀ out out', states out out' → ∀ level, reached level →
    states (printer.descend out level) (printer'.descend out' level)

variable {printer : Printer ε σ} {printer' : Printer ε' σ'} {errors : ε → ε' → Prop}
  {states : σ → σ' → Prop} {reached : UInt64 → Prop}

/-- Two walks over a node end alike, whatever the level and the related states they start from. -/
def Printer.WalksAlike (printer : Printer ε σ) (printer' : Printer ε' σ')
    (errors : ε → ε' → Prop) (states : σ → σ' → Prop) (node : Node) : Prop :=
  ∀ out out', states out out' → ∀ level,
    EndAlike errors states (printer.pushNode out level node) (printer'.pushNode out' level node)

/-- Printers in step end alike on a form if they do on its children. -/
theorem Printer.InStep.endAlike_pushForm (h : printer.InStep printer' errors states reached)
    {form : Form}
    (hchildren : ∀ child ∈ form.children, printer.WalksAlike printer' errors states child)
    (out : σ) (out' : σ') (hout : states out out') (level : UInt64) :
    EndAlike errors states (printer.pushForm out level form)
      (printer'.pushForm out' level form) := by
  rw [Printer.pushForm_eq, Printer.pushForm_eq]
  apply (h.line out out' hout level form.label).bind
  intro out out' hline
  refine EndAlike.bind (EndAlike.foldlM ?_ hline.1) ?_
  · -- An empty place is prepared for, too, but nothing is printed there.
    intro place hplace out out' hout
    have hdescend := h.descend out out' hout level hline.2
    cases place with
    | none => exact .ok hdescend
    | some child =>
      exact hchildren child (Form.mem_children_of_mem_leadingPlaces hplace) _ _ hdescend _
  · intro out out' hout
    cases halternative : form.alternative? with
    | none => exact .ok hout
    | some child =>
      apply (h.line out out' hout level elseLabel).bind
      intro out out' helse
      have hdescend := h.descend out out' helse.1 level helse.2
      exact hchildren child (Form.mem_children_of_alternative? halternative) _ _ hdescend _

/-- Printers in step end alike on every node. -/
theorem Printer.InStep.walksAlike (h : printer.InStep printer' errors states reached)
    (node : Node) : printer.WalksAlike printer' errors states node := by
  induction node using Node.induction_by_children with
  | step node ih =>
    intro out out' hout level
    rw [Printer.pushNode_eq_foldlM, Printer.pushNode_eq_foldlM]
    apply EndAlike.foldlM ?_ hout
    intro form hform out out' hout
    exact h.endAlike_pushForm (ih form hform) out out' hout level

/-- Printers in step end alike on every optional node. -/
theorem Printer.InStep.endAlike_pushOptional (h : printer.InStep printer' errors states reached)
    {out : σ} {out' : σ'} (hout : states out out') (level : UInt64) (node : Option Node) :
    EndAlike errors states (printer.pushOptional out level node)
      (printer'.pushOptional out' level node) := by
  cases node with
  | none => exact .ok hout
  | some node => exact h.walksAlike node out out' hout level

end ProgramTree
