import ProgramTree.Datum.Layout
import ProgramTree.Proofs.UniqueReading

/-!
# The characters of a datum

The writer extends the text it is given. What it adds is described here as a list of characters,
in which a group stands between its brackets with the layout's separator between its entries.

Only a separator, the end of a group or nothing at all can follow a datum. In either layout the
end of a group differs from the separator, so a group of entries that are each told from what
follows them is told from what follows it.
-/

namespace ProgramTree

/-! ## What the writer adds -/

/-- The brackets around a group. -/
inductive Bracket where
  | round
  | square
  | curly

/-- The text inside the brackets next to them when a group is written on one line. -/
def Bracket.padding : Bracket → String
  | .round => ""
  | .square => ""
  | .curly => " "

/-- The bracket that ends a group. -/
def Bracket.close : Bracket → Char
  | .round => ')'
  | .square => ']'
  | .curly => '\x7d'

/-- The characters after the last entry of a group, its bracket included. -/
def Layout.ending (layout : Layout) (bracket : Bracket) : List Char :=
  (layout.closing bracket.padding).toList ++ [bracket.close]

mutual

/-- The characters of a datum. -/
def Datum.characters (escaped : EscapeSet) (layout : Layout) : Datum → List Char
  | .word name => name.toList
  | .integer value => value.repr.toList
  | .text content => (quoted escaped content).toList
  | .wrapped name content =>
    name.toList ++ '(' :: ((layout.opening "").toList ++
      (content.characters escaped layout.inner ++ layout.ending .round))
  | .sequence items =>
    '[' :: ((layout.opening "").toList ++
      (itemCharacters escaped layout items ++ layout.ending .square))
  | .record name fields =>
    name.toList ++ ' ' :: '\x7b' :: ((layout.opening " ").toList ++
      (fieldCharacters escaped layout fields ++ layout.ending .curly))

/-- The characters of the entries of a sequence, with separators between them. -/
def itemCharacters (escaped : EscapeSet) (layout : Layout) : Chain Datum → List Char
  | .last item => item.characters escaped layout.inner
  | .link item items =>
    item.characters escaped layout.inner ++ (layout.between.toList ++
      itemCharacters escaped layout items)

/-- The characters of the fields of a record, with separators between them. -/
def fieldCharacters (escaped : EscapeSet) (layout : Layout) :
    Chain (String × Datum) → List Char
  | .last (label, field) => label.toList ++ ':' :: ' ' :: field.characters escaped layout.inner
  | .link (label, field) fields =>
    label.toList ++ ':' :: ' ' :: (field.characters escaped layout.inner ++
      (layout.between.toList ++ fieldCharacters escaped layout fields))

end

mutual

/-- The writer adds the characters of the datum to the text it is given. -/
theorem Datum.toList_write (escaped : EscapeSet) : ∀ (datum : Datum) (layout : Layout)
    (out : String), (datum.write escaped layout out).toList =
      out.toList ++ datum.characters escaped layout
  | .word _, _, _ => by rw [Datum.write, String.toList_append, Datum.characters]
  | .integer _, _, _ => by rw [Datum.write, String.toList_append, Datum.characters]
  | .text _, _, _ => by rw [Datum.write, String.toList_append, Datum.characters]
  | .wrapped name content, layout, out => by
    simp [Datum.write, Datum.characters, Datum.toList_write escaped content, Layout.ending,
      Bracket.padding, Bracket.close]
  | .sequence items, layout, out => by
    simp [Datum.write, Datum.characters, toList_writeItems escaped items, Layout.ending,
      Bracket.padding, Bracket.close]
  | .record name fields, layout, out => by
    simp [Datum.write, Datum.characters, toList_writeFields escaped fields, Layout.ending,
      Bracket.padding, Bracket.close]

/-- The writer adds the lead and the characters of the entries. -/
theorem toList_writeItems (escaped : EscapeSet) : ∀ (items : Chain Datum) (layout : Layout)
    (lead out : String), (writeItems escaped layout lead out items).toList =
      out.toList ++ (lead.toList ++ itemCharacters escaped layout items)
  | .last item, layout, lead, out => by
    simp [writeItems, itemCharacters, Datum.toList_write escaped item]
  | .link item items, layout, lead, out => by
    simp [writeItems, itemCharacters, Datum.toList_write escaped item,
      toList_writeItems escaped items]

/-- The writer adds the lead and the characters of the fields. -/
theorem toList_writeFields (escaped : EscapeSet) : ∀ (fields : Chain (String × Datum))
    (layout : Layout) (lead out : String), (writeFields escaped layout lead out fields).toList =
      out.toList ++ (lead.toList ++ fieldCharacters escaped layout fields)
  | .last (label, field), layout, lead, out => by
    simp [writeFields, fieldCharacters, Datum.toList_write escaped field]
  | .link (label, field) fields, layout, lead, out => by
    simp [writeFields, fieldCharacters, Datum.toList_write escaped field,
      toList_writeFields escaped fields]

end

/-! ## What can follow a datum -/

/-- Whether a text can follow a datum: nothing, a separator or the end of a group. -/
def isBoundary : List Char → Bool
  | [] => true
  | ',' :: _ => true
  | ')' :: _ => true
  | ']' :: _ => true
  | ' ' :: '\x7d' :: _ => true
  | _ => false

/-- The characters of words, names and labels. -/
def isWordCharacter (character : Char) : Bool :=
  character.isAlpha || character == '_'

/-- A boundary does not go on with a word. -/
theorem not_isWordCharacter_of_isBoundary {rest : List Char} (h : isBoundary rest = true) :
    ∀ character ∈ rest.head?, ¬ isWordCharacter character = true := by
  unfold isBoundary at h
  split at h
  · simp
  all_goals simp_all [isWordCharacter, Char.isAlpha, Char.isUpper, Char.isLower]

/-- A boundary does not go on with a numeral. -/
theorem not_isNumeral_of_isBoundary {rest : List Char} (h : isBoundary rest = true) :
    ∀ character ∈ rest.head?, ¬ isNumeral character = true := by
  unfold isBoundary at h
  split at h
  · simp
  all_goals simp_all [isNumeral, Char.isDigit]

/-- The separator of a layout is a boundary. -/
theorem isBoundary_between (layout : Layout) (rest : List Char) :
    isBoundary (layout.between.toList ++ rest) = true := by
  cases layout with
  | compact => rfl
  | indented depth => simp [Layout.between, isBoundary]

/-- The end of a group is a boundary. -/
theorem isBoundary_ending (layout : Layout) (bracket : Bracket) (rest : List Char) :
    isBoundary (layout.ending bracket ++ rest) = true := by
  cases layout with
  | compact => cases bracket <;> rfl
  | indented depth => simp [Layout.ending, Layout.closing, isBoundary]

/-- The end of a group is not the separator: on one line it has no comma, and otherwise its
bracket stands where the separator still indents. -/
theorem ending_append_ne_between_append (layout : Layout) (bracket : Bracket)
    (rest other : List Char) :
    layout.ending bracket ++ rest ≠ layout.between.toList ++ other := by
  cases layout with
  | compact => cases bracket <;> simp [Layout.ending, Layout.closing, Layout.between,
      Bracket.padding, Bracket.close]
  | indented depth =>
    intro h
    have hindent : 4 * (depth + 1) = 4 * depth + 4 := by omega
    simp only [Layout.ending, Layout.closing, Layout.between, lineStart, hindent,
      List.replicate_add, String.toList_append, String.toList_ofList, List.append_assoc,
      List.append_cancel_left_eq] at h
    cases bracket <;> simp [Bracket.close, List.replicate] at h

/-! ## Groups of entries -/

/-- The texts of the entries of a chain with a separator between them. -/
def joinEntries {β : Type} (between : List Char) (text : β → List Char) : Chain β → List Char
  | .last entry => text entry
  | .link entry entries => text entry ++ (between ++ joinEntries between text entries)

/-- The entries of a sequence are joined by the separator of the layout. -/
theorem itemCharacters_eq_joinEntries (escaped : EscapeSet) (layout : Layout)
    (items : Chain Datum) : itemCharacters escaped layout items =
      joinEntries layout.between.toList (Datum.characters escaped layout.inner) items := by
  induction items with
  | last item => rw [itemCharacters, joinEntries]
  | link item items ih => rw [itemCharacters, joinEntries, ih]

/-- The characters of one labelled field. -/
def labelledCharacters (escaped : EscapeSet) (layout : Layout) (field : String × Datum) :
    List Char :=
  field.1.toList ++ ':' :: ' ' :: field.2.characters escaped layout

/-- The fields of a record are joined by the separator of the layout. -/
theorem fieldCharacters_eq_joinEntries (escaped : EscapeSet) (layout : Layout)
    (fields : Chain (String × Datum)) : fieldCharacters escaped layout fields =
      joinEntries layout.between.toList (labelledCharacters escaped layout.inner) fields := by
  induction fields with
  | last field => rw [fieldCharacters, joinEntries, labelledCharacters]
  | link field fields ih =>
    rw [fieldCharacters, joinEntries, labelledCharacters, ih]
    simp

/-- A group is read in one way if its entries are: after each entry the text tells whether the
group ends or goes on. -/
theorem joinEntries_append_inj {β : Type} {text : β → List Char} {layout : Layout}
    {bracket : Bracket} {first second : Chain β} {rest other : List Char}
    (hentries : ∀ entry ∈ first.toList, ∀ entry' ∈ second.toList, ∀ rest other,
      isBoundary rest = true → isBoundary other = true →
        text entry ++ rest = text entry' ++ other → entry = entry' ∧ rest = other)
    (h : joinEntries layout.between.toList text first ++ (layout.ending bracket ++ rest) =
      joinEntries layout.between.toList text second ++ (layout.ending bracket ++ other)) :
    first = second ∧ rest = other := by
  induction first generalizing second with
  | last entry =>
    cases second with
    | last entry' =>
      obtain ⟨rfl, hrests⟩ := hentries entry (by simp) entry' (by simp) _ _
        (isBoundary_ending layout bracket rest) (isBoundary_ending layout bracket other) h
      exact ⟨rfl, List.append_cancel_left hrests⟩
    | link entry' entries' =>
      rw [joinEntries, joinEntries, List.append_assoc, List.append_assoc] at h
      -- The first group ends where the second goes on.
      obtain ⟨-, hrests⟩ := hentries entry (by simp) entry' (by simp) _ _
        (isBoundary_ending layout bracket rest) (isBoundary_between layout _) h
      exact absurd hrests (ending_append_ne_between_append layout bracket _ _)
  | link entry entries ih =>
    cases second with
    | last entry' =>
      rw [joinEntries, joinEntries, List.append_assoc, List.append_assoc] at h
      obtain ⟨-, hrests⟩ := hentries entry (by simp) entry' (by simp) _ _
        (isBoundary_between layout _) (isBoundary_ending layout bracket other) h
      exact absurd hrests.symm (ending_append_ne_between_append layout bracket _ _)
    | link entry' entries' =>
      rw [joinEntries, joinEntries, List.append_assoc, List.append_assoc, List.append_assoc,
        List.append_assoc] at h
      obtain ⟨rfl, hrests⟩ := hentries entry (by simp) entry' (by simp) _ _
        (isBoundary_between layout _) (isBoundary_between layout _) h
      obtain ⟨rfl, hends⟩ := ih
        (fun x hx y hy => hentries x (by simp [hx]) y (by simp [hy]))
        (List.append_cancel_left hrests)
      exact ⟨rfl, hends⟩

end ProgramTree
