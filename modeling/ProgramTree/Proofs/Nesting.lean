import ProgramTree.Tree.Teardown

/-!
# Properly nested marks

Marks are properly nested if every destruction closes after all that opened later. The depth of
the nesting is carried along: what stands between two marks of one destruction may be nested one
less deep, and destructions that follow one another do not add up.

From the nesting alone it follows that each destruction closes as often as it opens, and that at
no time more of them are under way than the depth allows.
-/

namespace ProgramTree

/-- Every destruction closes after all that opened later, and at most so many are under way. -/
inductive NestedWithin : Nat → List Mark → Prop where
  /-- No marks are nested within any depth. -/
  | nil (depth : Nat) : NestedWithin depth []
  /-- A destruction encloses others that are nested one less deep, and others may follow it. -/
  | pair {depth : Nat} {inner rest : List Mark} (position : Position) :
    NestedWithin depth inner → NestedWithin (depth + 1) rest →
      NestedWithin (depth + 1) (.opens position :: (inner ++ .closes position :: rest))

variable {depth : Nat}

/-- Marks may be allowed to nest deeper than they do. -/
theorem NestedWithin.mono {marks : List Mark} (h : NestedWithin depth marks) {deeper : Nat}
    (hdepth : depth ≤ deeper) : NestedWithin deeper marks := by
  induction h generalizing deeper with
  | nil => exact .nil deeper
  | pair position _ _ ihinner ihrest =>
    obtain ⟨outer, rfl⟩ := Nat.exists_eq_add_of_le' (Nat.le_trans (Nat.succ_pos _) hdepth)
    exact .pair position (ihinner (Nat.le_of_succ_le_succ hdepth)) (ihrest hdepth)

/-- Nested marks that follow one another do not nest deeper. -/
theorem NestedWithin.append {first second : List Mark} (hfirst : NestedWithin depth first)
    (hsecond : NestedWithin depth second) : NestedWithin depth (first ++ second) := by
  induction hfirst with
  | nil => exact hsecond
  | pair position hinner _ _ ihrest =>
    rw [List.cons_append, List.append_assoc, List.cons_append]
    exact .pair position hinner (ihrest hsecond)

/-- Nested marks that are joined over a list do not nest deeper. -/
theorem nestedWithin_flatMap {α : Type} {items : List α} {marked : α → List Mark}
    (h : ∀ item ∈ items, NestedWithin depth (marked item)) :
    NestedWithin depth (items.flatMap marked) := by
  induction items with
  | nil => exact .nil depth
  | cons item items ih =>
    rw [List.forall_mem_cons] at h
    rw [List.flatMap_cons]
    exact h.1.append (ih h.2)

/-! ## What opens and what closes -/

/-- Joined marks open what both parts open. -/
theorem opened_append (first second : List Mark) :
    opened (first ++ second) = opened first ++ opened second :=
  List.filterMap_append

/-- Joined marks close what both parts close. -/
theorem closed_append (first second : List Mark) :
    closed (first ++ second) = closed first ++ closed second :=
  List.filterMap_append

/-- The first mark of a destruction opens it. -/
@[simp]
theorem opened_opens (position : Position) (marks : List Mark) :
    opened (.opens position :: marks) = position :: opened marks := rfl

/-- The first mark of a destruction closes nothing. -/
@[simp]
theorem closed_opens (position : Position) (marks : List Mark) :
    closed (.opens position :: marks) = closed marks := rfl

/-- The last mark of a destruction opens nothing. -/
@[simp]
theorem opened_closes (position : Position) (marks : List Mark) :
    opened (.closes position :: marks) = opened marks := rfl

/-- The last mark of a destruction closes it. -/
@[simp]
theorem closed_closes (position : Position) (marks : List Mark) :
    closed (.closes position :: marks) = position :: closed marks := rfl

/-- In nested marks everything that opens closes as often. -/
theorem NestedWithin.closed_perm_opened {marks : List Mark} (h : NestedWithin depth marks) :
    (closed marks).Perm (opened marks) := by
  induction h with
  | nil => exact List.Perm.refl []
  | pair position _ _ ihinner ihrest =>
    simp only [opened_opens, closed_opens, opened_append, closed_append, opened_closes,
      closed_closes]
    exact List.perm_middle.trans ((ihinner.append ihrest).cons position)

/-- At no time are more destructions under way than the depth allows. -/
theorem NestedWithin.length_opened_le {marks : List Mark} (h : NestedWithin depth marks)
    {before : List Mark} (hbefore : before <+: marks) :
    (opened before).length ≤ (closed before).length + depth := by
  induction h generalizing before with
  | nil =>
    rw [List.prefix_nil.mp hbefore]
    exact Nat.zero_le _
  | @pair depth inner rest position hinner _ ihinner ihrest =>
    have hbalance := hinner.closed_perm_opened.length_eq
    rcases List.prefix_cons_iff.mp hbefore with rfl | ⟨within, rfl, hwithin⟩
    · exact Nat.zero_le _
    · rw [opened_opens, closed_opens, List.length_cons]
      -- Either the destruction is still under way, or it is closed and others follow it.
      obtain ⟨tail, htail⟩ := hwithin
      rcases List.append_eq_append_iff.mp htail with ⟨more, rfl, -⟩ | ⟨after, rfl, hafter⟩
      · have hopen := ihinner (List.prefix_append within more)
        omega
      · rw [opened_append, closed_append, List.length_append, List.length_append]
        cases after with
        | nil =>
          change (opened inner).length + 0 + 1 ≤ (closed inner).length + 0 + (depth + 1)
          omega
        | cons mark later =>
          obtain ⟨rfl, rfl⟩ := List.cons.inj hafter
          have hopen := ihrest (List.prefix_append later tail)
          rw [opened_closes, closed_closes, List.length_cons]
          omega

end ProgramTree
