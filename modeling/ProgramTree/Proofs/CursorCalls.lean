import ProgramTree.Proofs.Appending

/-!
# What a cursor answers, call by call

One call takes the first of the chains that a cursor still hands out and leaves the others. So
after any number of calls the answer of the next one is found in the list of all of them, by its
number, and past the end of that list nothing is found any more.

For the siblings of a node this list holds what the links of the node lead to. The statements of a
block are the siblings of its body, and any other form has no statements to hand out, whatever is
linked after it.
-/

namespace ProgramTree

variable {α : Type}

/-! ## One call -/

/-- A call answers with the first chain that is still handed out. -/
theorem Cursor.fst_advance (cursor : Cursor α) : cursor.advance.1 = cursor.remaining[0]? := by
  obtain ⟨upcoming⟩ := cursor
  cases upcoming with
  | none => rfl
  | some chain => cases chain <;> simp [Cursor.advance, Cursor.remaining]

/-- A call leaves the chains after the first. -/
theorem Cursor.remaining_advance (cursor : Cursor α) :
    cursor.advance.2.remaining = cursor.remaining.tail := by
  obtain ⟨upcoming⟩ := cursor
  cases upcoming with
  | none => rfl
  | some chain => cases chain <;> simp [Cursor.advance, Cursor.remaining, Chain.next?]

/-- The count is the number of chains that are still handed out. -/
theorem Cursor.count_eq_length_remaining (cursor : Cursor α) :
    cursor.count = cursor.remaining.length := by
  obtain ⟨upcoming⟩ := cursor
  cases upcoming with
  | none => rfl
  | some chain =>
    change chain.length = chain.suffixes.length
    rw [Chain.length_suffixes, Chain.length_eq_length_toList]

/-! ## Any number of calls -/

/-- Every call is answered. -/
theorem Cursor.length_calls (cursor : Cursor α) (count : Nat) :
    (cursor.calls count).length = count := by
  induction count generalizing cursor with
  | zero => rfl
  | succ count ih => rw [Cursor.calls_succ, List.length_cons, ih]

/-- A call answers with the chain of its number, or with nothing past the last one. -/
theorem Cursor.getElem?_calls (cursor : Cursor α) {count position : Nat}
    (h : position < count) : (cursor.calls count)[position]? = some cursor.remaining[position]? := by
  induction count generalizing cursor position with
  | zero => exact absurd h (Nat.not_lt_zero position)
  | succ count ih =>
    rw [Cursor.calls_succ]
    cases position with
    | zero => rw [List.getElem?_cons_zero, cursor.fst_advance]
    | succ position =>
      rw [List.getElem?_cons_succ, ih cursor.advance.2 (Nat.lt_of_succ_lt_succ h),
        cursor.remaining_advance, List.getElem?_tail]

/-- The chains among the answers are the first of those that are handed out. -/
theorem Cursor.filterMap_calls (cursor : Cursor α) (count : Nat) :
    (cursor.calls count).filterMap id = cursor.remaining.take count := by
  induction count generalizing cursor with
  | zero => rfl
  | succ count ih =>
    have hrest := ih cursor.advance.2
    rw [cursor.remaining_advance] at hrest
    rw [Cursor.calls_succ, cursor.fst_advance]
    cases hremaining : cursor.remaining with
    | nil => simpa [hremaining] using hrest
    | cons chain chains => simpa [hremaining] using hrest

/-- A cursor that is exhausted stays so. -/
theorem Cursor.calls_exhausted (count : Nat) :
    Cursor.calls (⟨none⟩ : Cursor α) count = List.replicate count none := by
  induction count with
  | zero => rfl
  | succ count ih =>
    rw [Cursor.calls_succ, List.replicate_succ, ← ih]
    rfl

/-! ## Siblings and statements -/

/-- A cursor hands out the chain of a node, one sibling with each call. -/
structure Cursor.HandsOut (cursor : Cursor Form) (node : Node) : Prop where
  /-- Every call is answered. -/
  answered : ∀ calls : Nat, (cursor.calls calls).length = calls
  /-- A call within the chain answers with the node that as many links lead to. -/
  within : ∀ calls position : Nat, position < calls → position < node.siblings.count →
    ∃ context inner, node.walk (List.replicate position "next") = .ok (context, inner) ∧
      (cursor.calls calls)[position]? = some (some inner)
  /-- A call past the end of the chain answers with nothing. -/
  beyond : ∀ calls position : Nat, position < calls → node.siblings.count ≤ position →
    (cursor.calls calls)[position]? = some none
  /-- A cursor that starts from an answer hands out the siblings that are left. -/
  restarted : ∀ (calls position : Nat) (inner : Node),
    (cursor.calls calls)[position]? = some (some inner) →
      inner.siblings.count = node.siblings.count - position ∧
      ∀ more : Nat, inner.siblings.calls more = (cursor.calls (position + more)).drop position ∧
        (inner.siblings.calls more).filterMap id =
          (node.siblings.remaining.drop position).take more

/-- The cursor over the siblings of a node hands out its chain. -/
theorem Node.handsOut_siblings (node : Node) : node.siblings.HandsOut node where
  answered := node.siblings.length_calls
  within := by
    intro calls position hcalls hposition
    obtain ⟨inner, hinner⟩ := Node.exists_sibling hposition
    refine ⟨_, inner, Node.walk_replicate_next hinner, ?_⟩
    rw [node.siblings.getElem?_calls hcalls, hinner]
  beyond := by
    intro calls position hcalls hposition
    rw [node.siblings.count_eq_length_remaining] at hposition
    rw [node.siblings.getElem?_calls hcalls, List.getElem?_eq_none hposition]
  restarted := by
    intro calls position inner h
    obtain ⟨hposition, -⟩ := List.getElem?_eq_some_iff.mp h
    rw [node.siblings.length_calls] at hposition
    rw [node.siblings.getElem?_calls hposition, Option.some.injEq] at h
    have hrest : inner.siblings.remaining = node.siblings.remaining.drop position :=
      Chain.suffixes_of_getElem? h
    refine ⟨?_, fun more => ⟨?_, ?_⟩⟩
    · rw [inner.siblings.count_eq_length_remaining, node.siblings.count_eq_length_remaining, hrest,
        List.length_drop]
    · apply List.ext_getElem?
      intro call
      rw [List.getElem?_drop]
      by_cases hcall : call < more
      · rw [inner.siblings.getElem?_calls hcall, hrest, List.getElem?_drop,
          node.siblings.getElem?_calls (Nat.add_lt_add_left hcall position)]
      · rw [List.getElem?_eq_none, List.getElem?_eq_none]
        · rw [node.siblings.length_calls]
          omega
        · rw [inner.siblings.length_calls]
          omega
    · rw [inner.siblings.filterMap_calls, hrest]

/-- Only blocks have statements. -/
theorem Form.statements?_eq_none_of_tag_ne {form : Form} (h : form.tag ≠ .block) :
    form.statements? = none := by
  cases form with
  | block body => exact absurd rfl h
  | _ => rfl

/-- Cursors hand out siblings and statements in order and stay exhausted at the end.

Over the siblings of a node a call answers with the node that as many links lead to, if the chain
is that long, and every later call answers with nothing, however many are made. A cursor that
starts from one of the answers hands out exactly the siblings that are left. The same holds of the
statements of a block from the head of its body. An empty block and a node of any other kind have
no statements, so that every call answers with nothing, whatever is linked after the node or
below it. -/
theorem Node.cursors_hand_out_in_order :
    (∀ node : Node, node.siblings.HandsOut node) ∧
    (∀ node body : Node, node.head = .block (some body) → node.blockStatements.HandsOut body) ∧
    ∀ node : Node, node.tag ≠ .block ∨ node.head = .block none →
      ∀ calls : Nat, node.blockStatements.calls calls = List.replicate calls none := by
  refine ⟨Node.handsOut_siblings, ?_, ?_⟩
  · intro node body hhead
    have hcursor : node.blockStatements = body.siblings := by
      rw [Node.blockStatements, hhead]
      rfl
    rw [hcursor]
    exact body.handsOut_siblings
  · intro node hnode calls
    have hnone : node.head.statements? = none := by
      rcases hnode with htag | hhead
      · exact Form.statements?_eq_none_of_tag_ne htag
      · rw [hhead]
        rfl
    rw [Node.blockStatements, hnone]
    exact Cursor.calls_exhausted calls

/-- The statements of a block are handed out, and not what is linked after the block. -/
example :
    let block := (Node.block (some (Node.integer 1))).append (Node.integer 2)
    (Node.blockStatements block).calls 3 = [some (Node.integer 1), none, none] :=
  rfl

end ProgramTree
