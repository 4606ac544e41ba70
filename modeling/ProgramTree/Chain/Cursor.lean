import ProgramTree.Chain.Basic

/-!
# Reading a chain one entry at a time

A cursor remembers the part of a chain that is still to be read. Each call hands out the chain
that starts at the next entry, so a reader sees the entry together with everything after it.
Once nothing is left, every further call hands out nothing.
-/

namespace ProgramTree

variable {α : Type}

/-- A position in a chain, given by the part that is still to be read. -/
structure Cursor (α : Type) where
  upcoming : Option (Chain α)

/-- A cursor that hands out every entry of a chain. -/
def Chain.cursor (chain : Chain α) : Cursor α :=
  ⟨some chain⟩

/-- Hand out the upcoming entry with its rest, and move behind it. -/
def Cursor.advance (cursor : Cursor α) : Option (Chain α) × Cursor α :=
  match cursor.upcoming with
  | none => (none, cursor)
  | some chain => (some chain, ⟨chain.next?⟩)

/-- Make a number of calls and add their answers to the collected ones, which stand in reverse. -/
def Cursor.callsOnto (collected : List (Option (Chain α))) (cursor : Cursor α) :
    Nat → List (Option (Chain α))
  | 0 => collected.reverse
  | count + 1 => cursor.advance.2.callsOnto (cursor.advance.1 :: collected) count

/-- The answers of a number of successive calls. -/
def Cursor.calls (cursor : Cursor α) (count : Nat) : List (Option (Chain α)) :=
  cursor.callsOnto [] count

/-- Everything the cursor still hands out before it is exhausted. -/
def Cursor.remaining (cursor : Cursor α) : List (Chain α) :=
  match cursor.upcoming with
  | none => []
  | some chain => chain.suffixes

/-- The number of entries the cursor still hands out. -/
def Cursor.count (cursor : Cursor α) : Nat :=
  match cursor.upcoming with
  | none => 0
  | some chain => chain.length

/-- Collected answers stand before the answers of the calls that are still to be made. -/
theorem Cursor.callsOnto_eq (collected : List (Option (Chain α))) (cursor : Cursor α)
    (count : Nat) : cursor.callsOnto collected count = collected.reverse ++ cursor.calls count := by
  induction count generalizing collected cursor with
  | zero => simp [Cursor.calls, Cursor.callsOnto]
  | succ count ih =>
    rw [Cursor.calls, Cursor.callsOnto, Cursor.callsOnto, ih, ih [_]]
    simp

/-- Making no call gives no answer. -/
@[simp]
theorem Cursor.calls_zero (cursor : Cursor α) : cursor.calls 0 = [] := rfl

/-- The first answer comes from the cursor and the others from the advanced cursor. -/
@[simp]
theorem Cursor.calls_succ (cursor : Cursor α) (count : Nat) :
    cursor.calls (count + 1) = cursor.advance.1 :: cursor.advance.2.calls count := by
  rw [Cursor.calls, Cursor.callsOnto, callsOnto_eq]
  rfl

end ProgramTree
