import ProgramTree.Tree.Context

/-!
# Induction over a tree by its children

The children of a form are its leading children and the alternative of a conditional. A child is a
part of its form, and the forms of a chain are parts of the chain. So a property of trees holds of
all of them if it passes from the children of the forms of a chain to the chain, whatever kinds of
form there are.
-/

namespace ProgramTree

/-- The children of a form in order, apart from the alternative of a conditional. -/
def Form.leadingChildren : Form → List Node
  | .integer _ => []
  | .reference _ => []
  | .binary _ left right => [left, right]
  | .unary _ operand => [operand]
  | .assign _ value => [value]
  | .declare _ initializer => initializer.toList
  | .conditional condition thenBranch _ => [condition, thenBranch]
  | .loop condition body => [condition, body]
  | .block body => body.toList

/-- The alternative of a conditional; no other form has one. -/
def Form.alternative? : Form → Option Node
  | .conditional _ _ elseBranch => elseBranch
  | _ => none

/-- The children of a form in order. -/
def Form.children (form : Form) : List Node :=
  form.leadingChildren ++ form.alternative?.toList

/-- A leading child is a child. -/
theorem Form.mem_children_of_mem_leadingChildren {form : Form} {child : Node}
    (h : child ∈ form.leadingChildren) : child ∈ form.children :=
  List.mem_append_left _ h

/-- An alternative is a child. -/
theorem Form.mem_children_of_alternative? {form : Form} {child : Node}
    (h : form.alternative? = some child) : child ∈ form.children :=
  List.mem_append_right _ (Option.mem_toList.mpr h)

/-- The owned children of a form are its children. -/
theorem Form.map_snd_owned (form : Form) : form.owned.map Prod.snd = form.children := by
  cases form <;>
    simp [Form.owned, Form.children, Form.leadingChildren, Form.alternative?, Function.comp_def]

/-- A child is a part of the form. -/
theorem Form.sizeOf_lt_of_mem_children {form : Form} {child : Node} (h : child ∈ form.children) :
    sizeOf child < sizeOf form := by
  rw [← Form.map_snd_owned] at h
  obtain ⟨⟨step, _⟩, howned, rfl⟩ := List.mem_map.mp h
  exact Form.sizeOf_lt_of_mem_owned howned

/-- The forms of a chain are parts of the chain. -/
theorem Node.sizeOf_lt_of_mem_toList {node : Node} {form : Form} (h : form ∈ node.toList) :
    sizeOf form < sizeOf node := by
  induction node with
  | last head =>
    rw [Chain.toList_last, List.mem_singleton] at h
    rw [h, Chain.last.sizeOf_spec]
    omega
  | link head next ih =>
    rw [Chain.toList_link, List.mem_cons] at h
    rw [Chain.link.sizeOf_spec]
    rcases h with rfl | h
    · omega
    · have hnext := ih h
      omega

/-- Induction over trees: a property passes from the children of the forms of a chain to the
chain. -/
theorem Node.induction_by_children {motive : Node → Prop}
    (step : ∀ node : Node, (∀ form ∈ node.toList, ∀ child ∈ form.children, motive child) →
      motive node) (node : Node) : motive node := by
  induction hsize : sizeOf node using Nat.strongRecOn generalizing node with
  | ind size ih =>
    apply step node
    intro form hform child hchild
    have hpart := Node.sizeOf_lt_of_mem_toList hform
    have hchildPart := Form.sizeOf_lt_of_mem_children hchild
    exact ih (sizeOf child) (by omega) child rfl

end ProgramTree
