import Mathlib.Algebra.BigOperators.Group.List.Basic
import Mathlib.Algebra.GroupWithZero.Nat
import ProgramTree.Proofs.Printing
import ProgramTree.Tree.Measure

/-!
# Measures that add up over a tree

A measure adds up over a tree when every form contributes a share of its own besides the measures
of its children. The shares determine the measure, by induction over the tree. So two measures are
equal once each form has the same share in both, however the measures are computed.

The number of entries, the conditionals with an alternative and the weights of the names add up in
this way. So do the weights of the labels of an outline: a form contributes its own label and, if
it has an alternative, the label of the line before it. In particular an outline has one line for
every entry and one more for every alternative.
-/

namespace ProgramTree

/-! ## Shares -/

/-- Every form of a chain contributes its share and the measures of its children. -/
def AddsUp (share : Form → Nat) (measure : Node → Nat) : Prop :=
  ∀ node : Node,
    measure node = (node.toList.map fun form => share form + (form.children.map measure).sum).sum

/-- Measures in which every form has the same share are equal. -/
theorem AddsUp.unique {share share' : Form → Nat} {measure measure' : Node → Nat}
    (h : AddsUp share measure) (h' : AddsUp share' measure')
    (hshare : ∀ form, share form = share' form) (node : Node) : measure node = measure' node := by
  induction node using Node.induction_by_children with
  | step node ih =>
    rw [h node, h' node]
    congr 1
    apply List.map_congr_left
    intro form hform
    rw [hshare form, List.map_congr_left (ih form hform)]

/-- The sum of two measures has the sums of their shares. -/
theorem AddsUp.add {share share' : Form → Nat} {measure measure' : Node → Nat}
    (h : AddsUp share measure) (h' : AddsUp share' measure') :
    AddsUp (fun form => share form + share' form) (fun node => measure node + measure' node) := by
  intro node
  change measure node + measure' node = _
  rw [h node, h' node, ← List.sum_map_add]
  congr 1
  apply List.map_congr_left
  intro form _
  change _ = share form + share' form + _
  rw [List.sum_map_add]
  omega

/-- A measure adds up if it is a sum over the forms of a chain, and over the children of each. -/
theorem addsUp_of_forms {share ofForm : Form → Nat} {measure : Node → Nat}
    (hnode : ∀ node : Node, measure node = (node.toList.map ofForm).sum)
    (hform : ∀ form : Form, ofForm form = share form + (form.children.map measure).sum) :
    AddsUp share measure := by
  intro node
  rw [hnode, funext hform]

/-- The weights of joined items are those of the items of each part. -/
theorem sum_map_flatMap {α β : Type} (weight : β → Nat) (parts : List α) (items : α → List β) :
    ((parts.flatMap items).map weight).sum =
      (parts.map fun part => ((items part).map weight).sum).sum := by
  induction parts with
  | nil => rfl
  | cons part parts ih =>
    rw [List.flatMap_cons, List.map_append, List.sum_append, ih, List.map_cons, List.sum_cons]

/-! ## Entries, alternatives and names -/

/-- The entries of an optional tree are those of the tree it holds. -/
theorem Node.sizeOptional_eq_sum (optional : Option Node) :
    Node.sizeOptional optional = (optional.toList.map Node.size).sum := by
  cases optional <;> simp [Node.sizeOptional]

/-- A form owns the entries of its children. -/
theorem Form.size_eq_sum (form : Form) : form.size = (form.children.map Node.size).sum := by
  cases form <;>
    simp [Form.size, Form.children, Form.alternative?, Form.leadingChildren,
      Node.sizeOptional_eq_sum, Nat.add_assoc]

/-- The entries of a chain are its forms and the entries they own. -/
theorem Node.size_eq_sum (node : Node) :
    node.size = (node.toList.map fun form => 1 + form.size).sum := by
  induction node with
  | last head => simp [Node.size, Nat.add_comm]
  | link head next ih => simp [Node.size, ih, Nat.add_comm]

/-- Every form counts as one entry. -/
theorem addsUp_size : AddsUp (fun _ => 1) Node.size :=
  addsUp_of_forms Node.size_eq_sum fun form => by rw [form.size_eq_sum]

/-- The conditionals with an alternative in an optional tree are those of the tree it holds. -/
theorem Node.alternativesOptional_eq_sum (optional : Option Node) :
    Node.alternativesOptional optional = (optional.toList.map Node.alternatives).sum := by
  cases optional <;> simp [Node.alternativesOptional]

/-- The conditionals with an alternative in a form are itself and those of its children. -/
theorem Form.alternatives_eq (form : Form) :
    form.alternatives = alternativeCount form.alternative? +
      (form.children.map Node.alternatives).sum := by
  cases form with
  | conditional condition thenBranch elseBranch =>
    simp [Form.alternatives, Form.children, Form.alternative?, Form.leadingChildren,
      Node.alternativesOptional_eq_sum, Nat.add_assoc]
  | _ =>
    simp [Form.alternatives, Form.children, Form.alternative?, Form.leadingChildren,
      Node.alternativesOptional_eq_sum, alternativeCount]

/-- The conditionals with an alternative in a chain are those of its forms. -/
theorem Node.alternatives_eq_sum (node : Node) :
    node.alternatives = (node.toList.map Form.alternatives).sum := by
  induction node with
  | last head => simp [Node.alternatives]
  | link head next ih => simp [Node.alternatives, ih]

/-- Every conditional with an alternative counts as one. -/
theorem addsUp_alternatives :
    AddsUp (fun form => alternativeCount form.alternative?) Node.alternatives :=
  addsUp_of_forms Node.alternatives_eq_sum Form.alternatives_eq

/-- The names in an optional tree are those of the tree it holds. -/
theorem Node.namesOptional_eq_flatMap (optional : Option Node) :
    Node.namesOptional optional = optional.toList.flatMap Node.names := by
  cases optional <;> simp [Node.namesOptional]

/-- The names in a form are the one it carries and those of its children. -/
theorem Form.names_eq (form : Form) :
    form.names = form.name?.toList ++ form.children.flatMap Node.names := by
  cases form <;>
    simp [Form.names, Form.name?, Form.children, Form.alternative?, Form.leadingChildren,
      Node.namesOptional_eq_flatMap]

/-- The names in a chain are those of its forms. -/
theorem Node.names_eq_flatMap (node : Node) : node.names = node.toList.flatMap Form.names := by
  induction node with
  | last head => simp [Node.names]
  | link head next ih => simp [Node.names, ih]

/-- Every form contributes the weight of the name it carries. -/
theorem addsUp_names (weight : String → Nat) :
    AddsUp (fun form => (form.name?.toList.map weight).sum)
      (fun node => (node.names.map weight).sum) := by
  have hnode (node : Node) : (node.names.map weight).sum =
      (node.toList.map fun form => (form.names.map weight).sum).sum := by
    rw [node.names_eq_flatMap, sum_map_flatMap]
  refine addsUp_of_forms hnode fun form => ?_
  rw [form.names_eq, List.map_append, List.sum_append, sum_map_flatMap]

/-! ## Labels of an outline -/

/-- The sum of the weights of the labels of an outline. -/
def labelSum (weight : String → Nat) (outline : List Line) : Nat :=
  (outline.map fun line => weight line.label).sum

/-- Joined outlines have the labels of both. -/
theorem labelSum_append (weight : String → Nat) (first second : List Line) :
    labelSum weight (first ++ second) = labelSum weight first + labelSum weight second := by
  rw [labelSum, List.map_append, List.sum_append]
  rfl

/-- Outlines joined over a list have the labels of all of them. -/
theorem labelSum_flatMap {α : Type} (weight : String → Nat) (items : List α)
    (outline : α → List Line) :
    labelSum weight (items.flatMap outline) =
      (items.map fun item => labelSum weight (outline item)).sum :=
  sum_map_flatMap _ items outline

/-- Deepening keeps the labels. -/
theorem labelSum_deepen (weight : String → Nat) (outline : List Line) :
    labelSum weight (deepen outline) = labelSum weight outline := by
  rw [labelSum, deepen, List.map_map]
  rfl

/-- An alternative has a line of its own before its outline. -/
theorem labelSum_elseLines (weight : String → Nat) (elseBranch : Option Node) :
    labelSum weight (elseLines elseBranch) = alternativeCount elseBranch * weight elseLabel := by
  cases elseBranch <;> simp [labelSum, elseLines, alternativeCount]

/-- The labels of an optional tree are those of the tree it holds. -/
theorem labelSum_outlineOptional (weight : String → Nat) (optional : Option Node) :
    labelSum weight (Node.outlineOptional optional) =
      (optional.toList.map fun node => labelSum weight node.outline).sum := by
  cases optional <;> simp [Node.outlineOptional, labelSum]

/-- A form contributes its own label and that of the line before its alternative. -/
theorem addsUp_labelSum (weight : String → Nat) :
    AddsUp
      (fun form => weight form.label + alternativeCount form.alternative? * weight elseLabel)
      (fun node => labelSum weight node.outline) := by
  have hnode (node : Node) : labelSum weight node.outline =
      (node.toList.map fun form => labelSum weight form.outline).sum := by
    rw [node.outline_eq_flatMap, labelSum_flatMap]
  refine addsUp_of_forms hnode fun form => ?_
  have hlabel : labelSum weight [⟨0, form.label⟩] = weight form.label := by simp [labelSum]
  rw [form.outline_eq, ← List.singleton_append, labelSum_append, labelSum_append,
    labelSum_append, labelSum_flatMap, labelSum_elseLines, labelSum_deepen,
    labelSum_outlineOptional, hlabel, Form.children, List.map_append, List.sum_append]
  simp only [labelSum_deepen]
  omega

/-- An outline has a line for every entry and one more for every alternative. -/
theorem Node.length_outline (node : Node) :
    node.outline.length = node.size + node.alternatives := by
  have hlength : labelSum (fun _ => 1) node.outline = node.outline.length := by simp [labelSum]
  rw [← hlength]
  exact (addsUp_labelSum fun _ => 1).unique (addsUp_size.add addsUp_alternatives)
    (fun form => by rw [Nat.mul_one]) node

end ProgramTree
