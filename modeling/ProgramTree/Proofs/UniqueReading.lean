import Mathlib
import ProgramTree.Text.Quoted

/-!
# Texts that are read in one way

A piece of text is read in one way when it can be told from whatever follows it: two pieces
followed by two rests are the same text only if the pieces are equal and the rests are. Runs of
one class of items are told apart by the first item outside the class. Numerals and the digits of
an escaped character are such runs. A quoted text ends at its first bare quote, because a quote
inside it is always written after a backslash.

Nothing here depends on which characters are written by their code points.
-/

namespace ProgramTree

/-- Two runs of one class that end where the class ends are equal, and so is what follows them. -/
theorem run_append_inj {α : Type} (inClass : α → Prop) {first second rest other : List α}
    (hfirst : ∀ item ∈ first, inClass item) (hsecond : ∀ item ∈ second, inClass item)
    (hrest : ∀ item ∈ rest.head?, ¬ inClass item) (hother : ∀ item ∈ other.head?, ¬ inClass item)
    (h : first ++ rest = second ++ other) : first = second ∧ rest = other := by
  induction first generalizing second with
  | nil =>
    cases second with
    | nil => exact ⟨rfl, h⟩
    | cons item second =>
      have hhead : item ∈ rest.head? := by
        rw [List.nil_append] at h
        simp [h]
      exact absurd (hsecond item List.mem_cons_self) (hrest item hhead)
  | cons item first ih =>
    cases second with
    | nil =>
      have hhead : item ∈ other.head? := by
        rw [List.nil_append] at h
        simp [← h]
      exact absurd (hfirst item List.mem_cons_self) (hother item hhead)
    | cons head second =>
      obtain ⟨rfl, htail⟩ := List.cons.inj h
      obtain ⟨rfl, hrests⟩ := ih (fun x hx => hfirst x (List.mem_cons_of_mem _ hx))
        (fun x hx => hsecond x (List.mem_cons_of_mem _ hx)) htail
      exact ⟨rfl, hrests⟩

/-- The characters of decimal numerals. -/
def isNumeral (character : Char) : Bool :=
  character.isDigit || character == '-'

/-- A numeral has only digits and a sign. -/
theorem isNumeral_of_mem_repr {value : Int} {character : Char}
    (h : character ∈ value.repr.toList) : isNumeral character = true := by
  have hdigit {number : Nat} (hmem : character ∈ number.repr.toList) :
      isNumeral character = true := by
    rw [Nat.toList_repr] at hmem
    simp [isNumeral, Nat.isDigit_of_mem_toDigits (by decide) (by decide) hmem]
  rw [Int.repr_eq_if] at h
  split at h
  · exact hdigit h
  · rw [String.toList_append, List.mem_append] at h
    rcases h with hsign | hdigits
    · obtain rfl : character = '-' := by simpa using hsign
      rfl
    · exact hdigit hdigits

/-- A numeral has at least one character. -/
theorem toList_repr_ne_nil (value : Int) : value.repr.toList ≠ [] := by
  rw [Int.repr_eq_if]
  split
  · simp
  · simp

/-- Digits below sixteen are written by different characters. -/
theorem digitChar_inj {first second : Nat} (hfirst : first < 16) (hsecond : second < 16)
    (h : first.digitChar = second.digitChar) : first = second := by
  have hall : ∀ first < 16, ∀ second < 16,
      Nat.digitChar first = Nat.digitChar second → first = second := by decide
  exact hall first hfirst second hsecond h

/-- Numbers with the same hexadecimal digits are equal. -/
theorem toDigits_sixteen_inj {first second : Nat}
    (h : Nat.toDigits 16 first = Nat.toDigits 16 second) : first = second := by
  induction first using Nat.strongRecOn generalizing second with
  | ind first ih =>
    by_cases hfirst : first < 16
    · by_cases hsecond : second < 16
      · rw [Nat.toDigits_of_lt_base hfirst, Nat.toDigits_of_lt_base hsecond] at h
        exact digitChar_inj hfirst hsecond (List.cons.inj h).1
      · -- A single digit is not the last digit after others.
        rw [Nat.toDigits_of_lt_base hfirst, Nat.toDigits_of_base_le (by decide) (by omega)] at h
        simp [List.singleton_eq_append_iff] at h
    · by_cases hsecond : second < 16
      · rw [Nat.toDigits_of_lt_base hsecond, Nat.toDigits_of_base_le (by decide) (by omega)] at h
        simp [List.append_eq_singleton_iff] at h
      · rw [Nat.toDigits_of_base_le (by decide) (Nat.le_of_not_lt hfirst),
          Nat.toDigits_of_base_le (by decide) (Nat.le_of_not_lt hsecond)] at h
        obtain ⟨hquotient, hremainder⟩ := List.append_inj' h rfl
        have hdiv := ih (first / 16) (by omega) hquotient
        have hmod := digitChar_inj (Nat.mod_lt first (by decide))
          (Nat.mod_lt second (by decide)) (List.cons.inj hremainder).1
        omega

/-- No hexadecimal digit is a closing brace. -/
theorem ne_brace_of_mem_toDigits {number : Nat} {character : Char}
    (h : character ∈ Nat.toDigits 16 number) : character ≠ '\x7d' := by
  have hdigit : ∀ digit < 16, Nat.digitChar digit ≠ '\x7d' := by decide
  induction number using Nat.strongRecOn with
  | ind number ih =>
    rw [Nat.toDigits_eq_if (by decide)] at h
    split at h
    · rw [List.mem_singleton] at h
      exact h ▸ hdigit number ‹_›
    · rcases List.mem_append.mp h with hmem | hmem
      · exact ih (number / 16) (by omega) hmem
      · rw [List.mem_singleton] at hmem
        exact hmem ▸ hdigit _ (Nat.mod_lt number (by decide))

/-- The character that a letter stands for after a backslash, for the six short escapes. -/
def shortEscapeMeaning : Char → Option Char
  | '0' => some '\x00'
  | 't' => some '\t'
  | 'n' => some '\n'
  | 'r' => some '\r'
  | '"' => some '"'
  | '\\' => some '\\'
  | _ => none

/-- A character is written as it is, by a short escape or by its code point; a backslash is never
written as it is. -/
theorem escapeCharacter_cases (escaped : EscapeSet) (character : Char) :
    (escapeCharacter escaped character = [character] ∧ character ≠ '\\') ∨
      (∃ letter, escapeCharacter escaped character = ['\\', letter] ∧
        shortEscapeMeaning letter = some character) ∨
      escapeCharacter escaped character = codePointEscape character := by
  unfold escapeCharacter
  split
  · exact .inr (.inl ⟨'0', rfl, rfl⟩)
  · exact .inr (.inl ⟨'t', rfl, rfl⟩)
  · exact .inr (.inl ⟨'n', rfl, rfl⟩)
  · exact .inr (.inl ⟨'r', rfl, rfl⟩)
  · exact .inr (.inl ⟨'"', rfl, rfl⟩)
  · exact .inr (.inl ⟨'\\', rfl, rfl⟩)
  · split
    · exact .inr (.inr rfl)
    · exact .inl ⟨rfl, ‹_›⟩

/-- A character written by its code point is told from what follows it. -/
theorem codePointEscape_append_inj {first second : Char} {rest other : List Char}
    (h : codePointEscape first ++ rest = codePointEscape second ++ other) :
    first = second ∧ rest = other := by
  have hdigits : Nat.toDigits 16 first.toNat ++ ('\x7d' :: rest) =
      Nat.toDigits 16 second.toNat ++ ('\x7d' :: other) := by
    simpa [codePointEscape] using h
  obtain ⟨hnumbers, hrests⟩ := run_append_inj (· ≠ '\x7d')
    (fun _ => ne_brace_of_mem_toDigits) (fun _ => ne_brace_of_mem_toDigits)
    (by simp) (by simp) hdigits
  exact ⟨Char.toNat_inj.mp (toDigits_sixteen_inj hnumbers), (List.cons.inj hrests).2⟩

/-- A character that is not written as it is starts with a backslash. -/
theorem escapeCharacter_eq_backslash_cons {escaped : EscapeSet} {character : Char}
    (h : escapeCharacter escaped character ≠ [character]) :
    ∃ tail, escapeCharacter escaped character = '\\' :: tail := by
  rcases escapeCharacter_cases escaped character with ⟨hbare, -⟩ | ⟨letter, hshort, -⟩ | hcode
  · exact absurd hbare h
  · exact ⟨[letter], hshort⟩
  · exact ⟨_, hcode⟩

/-- A character that is written as it is is told from every other and from what follows it. -/
theorem bare_append_inj {escaped : EscapeSet} {first second : Char} {rest other : List Char}
    (hbare : first ≠ '\\')
    (h : first :: rest = escapeCharacter escaped second ++ other) :
    first = second ∧ rest = other := by
  by_cases hsecond : escapeCharacter escaped second = [second]
  · rw [hsecond] at h
    exact List.cons.inj h
  · obtain ⟨tail, htail⟩ := escapeCharacter_eq_backslash_cons hsecond
    rw [htail] at h
    exact absurd (List.cons.inj h).1 hbare

/-- A written character is told from what follows it. -/
theorem escapeCharacter_append_inj {escaped : EscapeSet} {first second : Char}
    {rest other : List Char}
    (h : escapeCharacter escaped first ++ rest = escapeCharacter escaped second ++ other) :
    first = second ∧ rest = other := by
  rcases escapeCharacter_cases escaped first with
    ⟨hfirst, hbare⟩ | ⟨letter, hfirst, hmeaning⟩ | hfirst
  · rw [hfirst] at h
    exact bare_append_inj hbare h
  · rcases escapeCharacter_cases escaped second with
      ⟨hsecond, hbare⟩ | ⟨letter', hsecond, hmeaning'⟩ | hsecond
    · rw [hsecond] at h
      exact (bare_append_inj hbare h.symm).imp Eq.symm Eq.symm
    · rw [hfirst, hsecond] at h
      obtain ⟨rfl, hrests⟩ := List.cons.inj (List.cons.inj h).2
      exact ⟨Option.some.inj (hmeaning.symm.trans hmeaning'), hrests⟩
    · -- The letter of a code point is that of no short escape.
      rw [hfirst, hsecond] at h
      obtain ⟨rfl, -⟩ := List.cons.inj (List.cons.inj h).2
      cases hmeaning
  · rcases escapeCharacter_cases escaped second with
      ⟨hsecond, hbare⟩ | ⟨letter, hsecond, hmeaning⟩ | hsecond
    · rw [hsecond] at h
      exact (bare_append_inj hbare h.symm).imp Eq.symm Eq.symm
    · rw [hfirst, hsecond] at h
      obtain ⟨rfl, -⟩ := List.cons.inj (List.cons.inj h).2
      cases hmeaning
    · rw [hfirst, hsecond] at h
      exact codePointEscape_append_inj h

/-- No written character starts with a bare quote. -/
theorem escapeCharacter_append_ne_quote (escaped : EscapeSet) (character : Char)
    (rest other : List Char) : escapeCharacter escaped character ++ rest ≠ '"' :: other := by
  intro h
  obtain ⟨rfl, -⟩ := bare_append_inj (by decide) h.symm
  rw [escapeCharacter] at h
  exact absurd (List.cons.inj h).1 (by decide)

/-- Written characters up to a bare quote are read in one way. -/
theorem flatMap_escapeCharacter_append_inj {escaped : EscapeSet}
    {first second rest other : List Char}
    (h : first.flatMap (escapeCharacter escaped) ++ '"' :: rest =
      second.flatMap (escapeCharacter escaped) ++ '"' :: other) :
    first = second ∧ rest = other := by
  induction first generalizing second with
  | nil =>
    cases second with
    | nil => exact ⟨rfl, (List.cons.inj h).2⟩
    | cons character second =>
      rw [List.flatMap_cons, List.append_assoc] at h
      exact absurd h.symm (escapeCharacter_append_ne_quote escaped character _ _)
  | cons character first ih =>
    cases second with
    | nil =>
      rw [List.flatMap_cons, List.append_assoc] at h
      exact absurd h (escapeCharacter_append_ne_quote escaped character _ _)
    | cons head second =>
      rw [List.flatMap_cons, List.flatMap_cons, List.append_assoc, List.append_assoc] at h
      obtain ⟨rfl, htail⟩ := escapeCharacter_append_inj h
      obtain ⟨rfl, hrests⟩ := ih htail
      exact ⟨rfl, hrests⟩

/-- A quoted text is read in one way, whatever characters it holds. -/
theorem quoted_append_inj {escaped : EscapeSet} {first second : String} {rest other : List Char}
    (h : (quoted escaped first).toList ++ rest = (quoted escaped second).toList ++ other) :
    first = second ∧ rest = other := by
  have hbody : first.toList.flatMap (escapeCharacter escaped) ++ '"' :: rest =
      second.toList.flatMap (escapeCharacter escaped) ++ '"' :: other := by
    simpa [quoted] using h
  obtain ⟨htexts, hrests⟩ := flatMap_escapeCharacter_append_inj hbody
  exact ⟨String.toList_inj.mp htexts, hrests⟩

end ProgramTree
