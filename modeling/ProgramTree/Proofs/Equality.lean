import ProgramTree.Tree.Equality

/-!
# Comparison decides equality of trees

Comparing two nodes walks their chains side by side, and comparing two forms compares their
children as nodes again. The two comparisons are shown together to hold exactly between equal
trees, by induction over the first tree. Chains of different lengths, a missing child against a
present one and forms of different kinds are each refused.

The walk is also the one that two cursors over the chains make: both are advanced once per step,
and the comparison ends with the first pair of answers that differ.
-/

namespace ProgramTree

variable {α : Type}

/-- A cursor that hands out an entry has one entry less to hand out afterwards. -/
theorem Cursor.count_advance {cursor : Cursor α} {chain : Chain α}
    (h : cursor.advance.1 = some chain) : cursor.advance.2.count + 1 = cursor.count := by
  obtain ⟨upcoming⟩ := cursor
  cases upcoming with
  | none => cases h
  | some chain =>
    cases chain with
    | last head => rfl
    | link head next =>
      show next.length + 1 = (Chain.link head next).length
      simp [Chain.length_eq_length_toList]

/-- Compare the entries that two cursors hand out, call by call, until one of them is exhausted. -/
def Cursor.agree (same : α → α → Bool) (first second : Cursor α) : Bool :=
  match _handedOut : first.advance.1 with
  | none => second.advance.1.isNone
  | some chain =>
    match second.advance.1 with
    | none => false
    | some other =>
      same chain.head other.head && Cursor.agree same first.advance.2 second.advance.2
termination_by first.count
decreasing_by
  have := Cursor.count_advance _handedOut
  omega

/-- An exhausted cursor agrees with a cursor that is exhausted too. -/
theorem Cursor.agree_exhausted (same : α → α → Bool) (second : Cursor α) :
    Cursor.agree same ⟨none⟩ second = second.upcoming.isNone := by
  rw [Cursor.agree]
  obtain ⟨upcoming⟩ := second
  cases upcoming <;> rfl

/-- A cursor with an entry left does not agree with an exhausted one. -/
theorem Cursor.agree_with_exhausted (same : α → α → Bool) (chain : Chain α) :
    Cursor.agree same ⟨some chain⟩ ⟨none⟩ = false := by
  rw [Cursor.agree]
  rfl

/-- Two cursors with entries left compare these and then what is linked after them. -/
theorem Cursor.agree_upcoming (same : α → α → Bool) (chain other : Chain α) :
    Cursor.agree same ⟨some chain⟩ ⟨some other⟩ =
      (same chain.head other.head && Cursor.agree same ⟨chain.next?⟩ ⟨other.next?⟩) := by
  rw [Cursor.agree]
  rfl

/-- Comparing nodes is comparing the forms that two cursors over their chains hand out. -/
theorem Node.same_eq_agree (first second : Node) :
    Node.same first second = Cursor.agree Form.same first.siblings second.siblings := by
  induction first generalizing second with
  | last head =>
    show _ = Cursor.agree Form.same ⟨some (.last head)⟩ ⟨some second⟩
    rw [Cursor.agree_upcoming]
    cases second with
    | last other => simp [Node.same, Chain.head, Chain.next?, Cursor.agree_exhausted]
    | link other rest => simp [Node.same, Chain.next?, Cursor.agree_exhausted]
  | link head next ih =>
    show _ = Cursor.agree Form.same ⟨some (.link head next)⟩ ⟨some second⟩
    rw [Cursor.agree_upcoming]
    cases second with
    | last other => simp [Node.same, Chain.next?, Cursor.agree_with_exhausted]
    | link other rest =>
      rw [Node.same, ih rest]
      rfl

mutual

/-- Forms that compare as the same are equal. -/
theorem Form.eq_of_same : ∀ first second : Form, Form.same first second = true → first = second
  | .integer value, second, h => by
    cases second with
    | integer other => simpa [Form.same] using h
    | _ => simp [Form.same] at h
  | .reference name, second, h => by
    cases second with
    | reference other => simpa [Form.same] using h
    | _ => simp [Form.same] at h
  | .binary operator left right, second, h => by
    cases second with
    | binary other otherLeft otherRight =>
      simp only [Form.same, Bool.and_eq_true, beq_iff_eq] at h
      rw [h.1.1, Node.eq_of_same left otherLeft h.1.2, Node.eq_of_same right otherRight h.2]
    | _ => simp [Form.same] at h
  | .unary operator operand, second, h => by
    cases second with
    | unary other otherOperand =>
      simp only [Form.same, Bool.and_eq_true, beq_iff_eq] at h
      rw [h.1, Node.eq_of_same operand otherOperand h.2]
    | _ => simp [Form.same] at h
  | .assign name value, second, h => by
    cases second with
    | assign other otherValue =>
      simp only [Form.same, Bool.and_eq_true, beq_iff_eq] at h
      rw [h.1, Node.eq_of_same value otherValue h.2]
    | _ => simp [Form.same] at h
  | .declare name initializer, second, h => by
    cases second with
    | declare other otherInitializer =>
      simp only [Form.same, Bool.and_eq_true, beq_iff_eq] at h
      rw [h.1, Node.eq_of_sameOptional initializer otherInitializer h.2]
    | _ => simp [Form.same] at h
  | .conditional condition thenBranch elseBranch, second, h => by
    cases second with
    | conditional otherCondition otherThen otherElse =>
      simp only [Form.same, Bool.and_eq_true] at h
      rw [Node.eq_of_same condition otherCondition h.1.1,
        Node.eq_of_same thenBranch otherThen h.1.2,
        Node.eq_of_sameOptional elseBranch otherElse h.2]
    | _ => simp [Form.same] at h
  | .loop condition body, second, h => by
    cases second with
    | loop otherCondition otherBody =>
      simp only [Form.same, Bool.and_eq_true] at h
      rw [Node.eq_of_same condition otherCondition h.1, Node.eq_of_same body otherBody h.2]
    | _ => simp [Form.same] at h
  | .block body, second, h => by
    cases second with
    | block otherBody =>
      simp only [Form.same] at h
      rw [Node.eq_of_sameOptional body otherBody h]
    | _ => simp [Form.same] at h

/-- Optional nodes that compare as the same are equal. -/
theorem Node.eq_of_sameOptional :
    ∀ first second : Option Node, Node.sameOptional first second = true → first = second
  | none, second, h => by
    cases second with
    | none => rfl
    | some other => simp [Node.sameOptional] at h
  | some node, second, h => by
    cases second with
    | none => simp [Node.sameOptional] at h
    | some other =>
      simp only [Node.sameOptional] at h
      rw [Node.eq_of_same node other h]

/-- Nodes that compare as the same are equal: the chains end together. -/
theorem Node.eq_of_same : ∀ first second : Node, Node.same first second = true → first = second
  | .last head, second, h => by
    cases second with
    | last other =>
      simp only [Node.same] at h
      rw [Form.eq_of_same head other h]
    | link other rest => simp [Node.same] at h
  | .link head next, second, h => by
    cases second with
    | last other => simp [Node.same] at h
    | link other rest =>
      simp only [Node.same, Bool.and_eq_true] at h
      rw [Form.eq_of_same head other h.1, Node.eq_of_same next rest h.2]

end

mutual

/-- Every form compares as the same as itself. -/
theorem Form.same_self : ∀ form : Form, Form.same form form = true
  | .integer _ => by simp [Form.same]
  | .reference _ => by simp [Form.same]
  | .binary _ left right => by simp [Form.same, Node.same_self left, Node.same_self right]
  | .unary _ operand => by simp [Form.same, Node.same_self operand]
  | .assign _ value => by simp [Form.same, Node.same_self value]
  | .declare _ initializer => by simp [Form.same, Node.sameOptional_self initializer]
  | .conditional condition thenBranch elseBranch => by
    simp [Form.same, Node.same_self condition, Node.same_self thenBranch,
      Node.sameOptional_self elseBranch]
  | .loop condition body => by simp [Form.same, Node.same_self condition, Node.same_self body]
  | .block body => by simp [Form.same, Node.sameOptional_self body]

/-- Every optional node compares as the same as itself. -/
theorem Node.sameOptional_self : ∀ node : Option Node, Node.sameOptional node node = true
  | none => rfl
  | some node => by simp [Node.sameOptional, Node.same_self node]

/-- Every node compares as the same as itself. -/
theorem Node.same_self : ∀ node : Node, Node.same node node = true
  | .last head => by simp [Node.same, Form.same_self head]
  | .link head next => by simp [Node.same, Form.same_self head, Node.same_self next]

end

/-- Comparison of forms decides their equality. -/
instance : LawfulBEq Form where
  eq_of_beq := Form.eq_of_same _ _
  rfl := Form.same_self _

/-- Comparison of nodes decides their equality. -/
instance : LawfulBEq Node where
  eq_of_beq := Node.eq_of_same _ _
  rfl := Node.same_self _

/-- Nodes are equal when their first entries are and what is linked after them is. -/
theorem Node.eq_iff_head_next? (first second : Node) :
    first = second ↔ first.head = second.head ∧ first.next? = second.next? := by
  constructor
  · rintro rfl
    exact ⟨rfl, rfl⟩
  · rintro ⟨hhead, hnext⟩
    rw [← first.cons_head_next?, hhead, hnext, second.cons_head_next?]

/-- A chain differs from itself with something appended. -/
theorem Chain.append_ne_self (first rest : Chain α) : first.append rest ≠ first := by
  intro h
  have hlength := congrArg (fun chain => chain.toList.length) h
  have hrest := List.length_pos_iff.mpr rest.toList_ne_nil
  simp only [Chain.toList_append, List.length_append] at hlength
  omega

/-- Comparing nodes decides whether they are the same tree.

It is the walk of two cursors that compares the forms they hand out, and it is also the
comparison of the first entries and of what is linked after them. It is therefore an equivalence
relation, and a chain never compares as the same as one that goes on after it has ended. -/
theorem Node.beq_decides_equality :
    (∀ first second : Node, (first == second) = true ↔ first = second) ∧
    (∀ first second : Node,
      (first == second) = Cursor.agree (· == ·) first.siblings second.siblings) ∧
    (∀ first second : Node,
      (first == second) = (first.head == second.head && first.next? == second.next?)) ∧
    Equivalence (fun first second : Node => (first == second) = true) ∧
    ∀ chain rest : Node,
      (chain == chain.append rest) = false ∧ (chain.append rest == chain) = false := by
  refine ⟨fun first second => beq_iff_eq, Node.same_eq_agree, ?_, ?_, ?_⟩
  · intro first second
    rw [Bool.eq_iff_iff, Bool.and_eq_true, beq_iff_eq, beq_iff_eq, beq_iff_eq]
    exact Node.eq_iff_head_next? first second
  · exact ⟨fun node => beq_self_eq_true node, fun h => by simpa using (eq_of_beq h).symm,
      fun h h' => by simpa using (eq_of_beq h).trans (eq_of_beq h')⟩
  · intro chain rest
    have hne := chain.append_ne_self rest
    exact ⟨beq_eq_false_iff_ne.mpr hne.symm, beq_eq_false_iff_ne.mpr hne⟩

end ProgramTree
