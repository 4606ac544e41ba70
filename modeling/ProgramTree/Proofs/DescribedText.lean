import ProgramTree.Proofs.DatumReading
import ProgramTree.Proofs.Equality
import ProgramTree.Tree.Describe

/-!
# The structured text of a tree identifies it

A tree is described as a datum before it is written. Its description uses words only, and
different trees have different descriptions: the record of a form shows its kind, its contents and
a sequence for each child, and operators are shown by their names. As readable data are read in
one way, the written text identifies the tree in both layouts, whatever its names hold and
whichever characters are written by their code points.
-/

namespace ProgramTree

/-- Kinds of form are shown by words. -/
theorem Tag.isWord_name (tag : Tag) : isWord tag.name = true := by
  cases tag <;> decide

/-- Operators are shown by words. -/
theorem Operator.isWord_name (operator : Operator) : isWord operator.name = true := by
  cases operator <;> decide

/-- Operators with one name are one operator. -/
theorem Operator.name_injective {first second : Operator} (h : first.name = second.name) :
    first = second := by
  have hall : ∀ first ∈ Operator.all, ∀ second ∈ Operator.all,
      first.name = second.name → first = second := by decide
  exact hall first first.mem_all second second.mem_all h

/-- The described forms of a chain stand in order. -/
theorem Node.toList_describeOnto_nil (node : Node) :
    (Node.describeOnto [] node).toList = node.toList.map Form.describe := by
  rw [Node.toList_describeOnto, List.reverse_nil, List.nil_append]

mutual

/-- The description of a form is readable. -/
theorem Form.isReadable_describe : ∀ form : Form, form.describe.isReadable = true
  | .integer _ => by
    simp +decide [Form.describe, Datum.isReadable, fieldsReadable, Tag.isWord_name]
  | .reference _ => by
    simp +decide [Form.describe, Datum.isReadable, fieldsReadable, Tag.isWord_name]
  | .binary operator left right => by
    simp +decide [Form.describe, Datum.isReadable, fieldsReadable, Tag.isWord_name,
      Operator.isWord_name, Node.itemsReadable_describe left, Node.itemsReadable_describe right]
  | .unary operator operand => by
    simp +decide [Form.describe, Datum.isReadable, fieldsReadable, Tag.isWord_name,
      Operator.isWord_name, Node.itemsReadable_describe operand]
  | .assign _ value => by
    simp +decide [Form.describe, Datum.isReadable, fieldsReadable, Tag.isWord_name,
      Node.itemsReadable_describe value]
  | .declare _ initializer => by
    simp +decide [Form.describe, Datum.isReadable, fieldsReadable, Tag.isWord_name,
      Node.isReadable_describeOptional initializer]
  | .conditional condition thenBranch elseBranch => by
    simp +decide [Form.describe, Datum.isReadable, fieldsReadable, Tag.isWord_name,
      Node.itemsReadable_describe condition, Node.itemsReadable_describe thenBranch,
      Node.isReadable_describeOptional elseBranch]
  | .loop condition body => by
    simp +decide [Form.describe, Datum.isReadable, fieldsReadable, Tag.isWord_name,
      Node.itemsReadable_describe condition, Node.itemsReadable_describe body]
  | .block body => by
    simp +decide [Form.describe, Datum.isReadable, fieldsReadable, Tag.isWord_name,
      Node.isReadable_describeOptional body]

/-- The description of an optional node is readable. -/
theorem Node.isReadable_describeOptional :
    ∀ node : Option Node, (Node.describeOptional node).isReadable = true
  | none => by decide
  | some node => by
    simp +decide [Node.describeOptional, Datum.isReadable, Node.itemsReadable_describe node]

/-- The described forms of a chain are readable. -/
theorem Node.itemsReadable_describe :
    ∀ node : Node, itemsReadable (Node.describeOnto [] node) = true
  | .last head => by
    rw [itemsReadable_iff, Node.toList_describeOnto_nil]
    simpa using Form.isReadable_describe head
  | .link head next => by
    have hnext := Node.itemsReadable_describe next
    rw [itemsReadable_iff, Node.toList_describeOnto_nil] at hnext ⊢
    rw [Chain.toList_link, List.map_cons, List.forall_mem_cons]
    exact ⟨Form.isReadable_describe head, hnext⟩

end

mutual

/-- Forms with one description are equal. -/
theorem Form.describe_injective : ∀ first second : Form, first.describe = second.describe →
    first = second
  | .integer value, second, h => by
    cases second with
    | integer other =>
      simp only [Form.describe, Datum.record.injEq, Chain.last.injEq, Prod.mk.injEq,
        Datum.integer.injEq, true_and] at h
      rw [Int64.toInt_inj.mp h]
    | _ => simp [Form.describe, Tag.name] at h
  | .reference name, second, h => by
    cases second with
    | reference other => simpa [Form.describe] using h
    | _ => simp [Form.describe, Tag.name] at h
  | .binary operator left right, second, h => by
    cases second with
    | binary other otherLeft otherRight =>
      simp only [Form.describe, Datum.record.injEq, Chain.link.injEq, Chain.last.injEq,
        Prod.mk.injEq, Datum.word.injEq, Datum.sequence.injEq, true_and] at h
      rw [Operator.name_injective h.1, Node.describeOnto_injective left otherLeft h.2.1,
        Node.describeOnto_injective right otherRight h.2.2]
    | _ => simp [Form.describe, Tag.name] at h
  | .unary operator operand, second, h => by
    cases second with
    | unary other otherOperand =>
      simp only [Form.describe, Datum.record.injEq, Chain.link.injEq, Chain.last.injEq,
        Prod.mk.injEq, Datum.word.injEq, Datum.sequence.injEq, true_and] at h
      rw [Operator.name_injective h.1, Node.describeOnto_injective operand otherOperand h.2]
    | _ => simp [Form.describe, Tag.name] at h
  | .assign name value, second, h => by
    cases second with
    | assign other otherValue =>
      simp only [Form.describe, Datum.record.injEq, Chain.link.injEq, Chain.last.injEq,
        Prod.mk.injEq, Datum.text.injEq, Datum.sequence.injEq, true_and] at h
      rw [h.1, Node.describeOnto_injective value otherValue h.2]
    | _ => simp [Form.describe, Tag.name] at h
  | .declare name initializer, second, h => by
    cases second with
    | declare other otherInitializer =>
      simp only [Form.describe, Datum.record.injEq, Chain.link.injEq, Chain.last.injEq,
        Prod.mk.injEq, Datum.text.injEq, true_and] at h
      rw [h.1, Node.describeOptional_injective initializer otherInitializer h.2]
    | _ => simp [Form.describe, Tag.name] at h
  | .conditional condition thenBranch elseBranch, second, h => by
    cases second with
    | conditional otherCondition otherThen otherElse =>
      simp only [Form.describe, Datum.record.injEq, Chain.link.injEq, Chain.last.injEq,
        Prod.mk.injEq, Datum.sequence.injEq, true_and] at h
      rw [Node.describeOnto_injective condition otherCondition h.1,
        Node.describeOnto_injective thenBranch otherThen h.2.1,
        Node.describeOptional_injective elseBranch otherElse h.2.2]
    | _ => simp [Form.describe, Tag.name] at h
  | .loop condition body, second, h => by
    cases second with
    | loop otherCondition otherBody =>
      simp only [Form.describe, Datum.record.injEq, Chain.link.injEq, Chain.last.injEq,
        Prod.mk.injEq, Datum.sequence.injEq, true_and] at h
      rw [Node.describeOnto_injective condition otherCondition h.1,
        Node.describeOnto_injective body otherBody h.2]
    | _ => simp [Form.describe, Tag.name] at h
  | .block body, second, h => by
    cases second with
    | block otherBody =>
      simp only [Form.describe, Datum.record.injEq, Chain.last.injEq, Prod.mk.injEq,
        true_and] at h
      rw [Node.describeOptional_injective body otherBody h]
    | _ => simp [Form.describe, Tag.name] at h

/-- Optional nodes with one description are equal. -/
theorem Node.describeOptional_injective : ∀ first second : Option Node,
    Node.describeOptional first = Node.describeOptional second → first = second
  | none, second, h => by
    cases second with
    | none => rfl
    | some other => simp [Node.describeOptional] at h
  | some node, second, h => by
    cases second with
    | none => simp [Node.describeOptional] at h
    | some other =>
      simp only [Node.describeOptional, Datum.wrapped.injEq, Datum.sequence.injEq,
        true_and] at h
      rw [Node.describeOnto_injective node other h]

/-- Chains with the same described forms are equal. -/
theorem Node.describeOnto_injective : ∀ first second : Node,
    Node.describeOnto [] first = Node.describeOnto [] second → first = second
  | .last head, second, h => by
    have hforms := congrArg Chain.toList h
    rw [Node.toList_describeOnto_nil, Node.toList_describeOnto_nil] at hforms
    cases second with
    | last other =>
      rw [Form.describe_injective head other (by simpa using hforms)]
    | link other rest =>
      simp [rest.toList_ne_nil] at hforms
  | .link head next, second, h => by
    have hforms := congrArg Chain.toList h
    rw [Node.toList_describeOnto_nil, Node.toList_describeOnto_nil] at hforms
    cases second with
    | last other => simp [next.toList_ne_nil] at hforms
    | link other rest =>
      rw [Chain.toList_link, Chain.toList_link, List.map_cons, List.map_cons] at hforms
      obtain ⟨hhead, hrest⟩ := List.cons.inj hforms
      rw [← Node.toList_describeOnto_nil, ← Node.toList_describeOnto_nil] at hrest
      rw [Form.describe_injective head other hhead,
        Node.describeOnto_injective next rest (Chain.toList_injective hrest)]

end

/-- The structured text of a node is readable in every layout. -/
theorem Node.isReadable_describe (node : Node) : node.describe.isReadable = true := by
  rw [Node.describe, Datum.isReadable]
  exact Node.itemsReadable_describe node

/-- In every layout the structured text of a node is that of no other node. -/
theorem Node.toText_describe_inj {escaped : EscapeSet} {layout : Layout} {first second : Node}
    (h : first.describe.toText escaped layout = second.describe.toText escaped layout) :
    first = second := by
  have hdescribe := Datum.toText_inj first.isReadable_describe second.isReadable_describe h
  exact Node.describeOnto_injective first second (Datum.sequence.inj hdescribe)

/-- The structured text identifies a tree, on one line as well as with one entry per line.

The set of characters that are written by their code points is arbitrary, and so are the names. -/
theorem Node.structured_text_identifies (escaped : EscapeSet) (first second : Node) :
    (first.describe.toText escaped .compact = second.describe.toText escaped .compact ↔
      (first == second) = true) ∧
    (first.describe.toText escaped .pretty = second.describe.toText escaped .pretty ↔
      (first == second) = true) := by
  constructor
  · rw [beq_iff_eq]
    exact ⟨Node.toText_describe_inj, fun h => by rw [h]⟩
  · rw [beq_iff_eq]
    exact ⟨Node.toText_describe_inj, fun h => by rw [h]⟩

end ProgramTree
