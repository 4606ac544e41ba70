import ProgramTree.Proofs.DatumText

/-!
# The text of a datum is read in one way

A datum is readable when its words, names and labels consist of letters and underscores. The first
character of a readable datum tells integers, texts, sequences and words apart; what follows a
name tells words, wrappers and records apart; and the text after an entry tells whether its group
goes on. So the text of a readable datum, followed by anything that can follow a datum, is read in
one way. Texts may hold any characters, since quoted text is read in one way by itself.
-/

namespace ProgramTree

/-! ## Readable data -/

/-- Whether a name is a word: letters and underscores, at least one. -/
def isWord (name : String) : Bool :=
  !name.toList.isEmpty && name.toList.all isWordCharacter

mutual

/-- Whether all words, names and labels of a datum are words. -/
def Datum.isReadable : Datum → Bool
  | .word name => isWord name
  | .integer _ => true
  | .text _ => true
  | .wrapped name content => isWord name && content.isReadable
  | .sequence items => itemsReadable items
  | .record name fields => isWord name && fieldsReadable fields

/-- Whether all entries of a sequence are readable. -/
def itemsReadable : Chain Datum → Bool
  | .last item => item.isReadable
  | .link item items => item.isReadable && itemsReadable items

/-- Whether all fields of a record are readable and have words as labels. -/
def fieldsReadable : Chain (String × Datum) → Bool
  | .last (label, field) => isWord label && field.isReadable
  | .link (label, field) fields => isWord label && field.isReadable && fieldsReadable fields

end

/-- The entries of a sequence are readable when each of them is. -/
theorem itemsReadable_iff (items : Chain Datum) :
    itemsReadable items = true ↔ ∀ item ∈ items.toList, item.isReadable = true := by
  induction items with
  | last item => simp [itemsReadable]
  | link item items ih => simp [itemsReadable, ih]

/-- The fields of a record are readable when each of them is and has a word as its label. -/
theorem fieldsReadable_iff (fields : Chain (String × Datum)) :
    fieldsReadable fields = true ↔
      ∀ field ∈ fields.toList, isWord field.1 = true ∧ field.2.isReadable = true := by
  induction fields with
  | last field => simp [fieldsReadable]
  | link field fields ih => simp [fieldsReadable, ih]

/-- A word is told from what follows it, unless that goes on with the word. -/
theorem word_append_inj {first second : String} {rest other : List Char}
    (hfirst : isWord first = true) (hsecond : isWord second = true)
    (hrest : ∀ character ∈ rest.head?, ¬ isWordCharacter character = true)
    (hother : ∀ character ∈ other.head?, ¬ isWordCharacter character = true)
    (h : first.toList ++ rest = second.toList ++ other) : first = second ∧ rest = other := by
  simp only [isWord, Bool.and_eq_true, List.all_eq_true] at hfirst hsecond
  obtain ⟨hwords, hrests⟩ := run_append_inj (isWordCharacter · = true) hfirst.2 hsecond.2
    hrest hother h
  exact ⟨String.toList_inj.mp hwords, hrests⟩

/-- What the first character of a datum shows. -/
inductive Lead where
  | word
  | numeral
  | quote
  | bracket

/-- What a first character shows. -/
def leadOf (character : Char) : Lead :=
  if isWordCharacter character then .word
  else if isNumeral character then .numeral
  else if character = '"' then .quote
  else .bracket

/-- What the text of a datum starts with. -/
def Datum.lead : Datum → Lead
  | .word _ => .word
  | .integer _ => .numeral
  | .text _ => .quote
  | .wrapped _ _ => .word
  | .sequence _ => .bracket
  | .record _ _ => .word

/-- A character of a numeral is not one of a word. -/
theorem not_isWordCharacter_of_isNumeral {character : Char} (h : isNumeral character = true) :
    isWordCharacter character = false := by
  rw [← Bool.not_eq_true]
  intro hword
  simp only [isWordCharacter, isNumeral, Char.isAlpha, Char.isUpper, Char.isLower, Char.isDigit,
    Bool.or_eq_true, Bool.and_eq_true, decide_eq_true_eq, beq_iff_eq, ge_iff_le,
    UInt32.le_iff_toNat_le] at h hword
  change (48 ≤ character.toNat ∧ character.toNat ≤ 57) ∨ character = '-' at h
  change ((65 ≤ character.toNat ∧ character.toNat ≤ 90) ∨
    (97 ≤ character.toNat ∧ character.toNat ≤ 122)) ∨ character = '_' at hword
  rcases hword with (hupper | hlower) | rfl
  · rcases h with hdigit | rfl
    · omega
    · exact absurd hupper (by decide)
  · rcases h with hdigit | rfl
    · omega
    · exact absurd hlower (by decide)
  · exact absurd h (by decide)

/-- The text of a word starts with a character of a word. -/
theorem leadOf_of_isWord {name : String} (h : isWord name = true) :
    ∃ character tail, name.toList = character :: tail ∧ leadOf character = .word := by
  simp only [isWord, Bool.and_eq_true, List.all_eq_true] at h
  cases hname : name.toList with
  | nil => simp [hname] at h
  | cons character tail =>
    have hcharacter := h.2 character (by simp [hname])
    exact ⟨character, tail, rfl, by simp [leadOf, hcharacter]⟩

/-- The first character of a readable datum shows its lead. -/
theorem Datum.leadOf_characters {escaped : EscapeSet} {layout : Layout} {datum : Datum}
    (h : datum.isReadable = true) : ∃ character tail,
      datum.characters escaped layout = character :: tail ∧ leadOf character = datum.lead := by
  cases datum with
  | word name =>
    rw [Datum.isReadable] at h
    exact leadOf_of_isWord h
  | integer value =>
    rw [Datum.characters]
    cases hvalue : value.repr.toList with
    | nil => exact absurd hvalue (toList_repr_ne_nil value)
    | cons character tail =>
      have hmem : character ∈ value.repr.toList := by simp [hvalue]
      have hnumeral := isNumeral_of_mem_repr hmem
      refine ⟨character, tail, rfl, ?_⟩
      simp [leadOf, not_isWordCharacter_of_isNumeral hnumeral, hnumeral, Datum.lead]
  | text content => exact ⟨'"', _, by rw [Datum.characters, quoted, String.toList_ofList], rfl⟩
  | wrapped name content =>
    rw [Datum.isReadable, Bool.and_eq_true] at h
    obtain ⟨character, tail, hname, hlead⟩ := leadOf_of_isWord h.1
    exact ⟨character, _, by rw [Datum.characters, hname]; rfl, hlead⟩
  | sequence items => exact ⟨'[', _, by rw [Datum.characters], rfl⟩
  | record name fields =>
    rw [Datum.isReadable, Bool.and_eq_true] at h
    obtain ⟨character, tail, hname, hlead⟩ := leadOf_of_isWord h.1
    exact ⟨character, _, by rw [Datum.characters, hname]; rfl, hlead⟩

/-- Readable data with the same text have the same lead. -/
theorem Datum.lead_eq {escaped : EscapeSet} {layout : Layout} {first second : Datum}
    {rest other : List Char} (hfirst : first.isReadable = true)
    (hsecond : second.isReadable = true)
    (h : first.characters escaped layout ++ rest = second.characters escaped layout ++ other) :
    first.lead = second.lead := by
  obtain ⟨character, tail, hcharacters, hlead⟩ := Datum.leadOf_characters hfirst
  obtain ⟨character', tail', hcharacters', hlead'⟩ := Datum.leadOf_characters hsecond
  rw [hcharacters, hcharacters'] at h
  rw [← hlead, ← hlead', (List.cons.inj h).1]

/-! ## Reading a datum -/

/-- The name with which the text of a word, a wrapper or a record starts. -/
def Datum.name : Datum → String
  | .word name => name
  | .wrapped name _ => name
  | .record name _ => name
  | _ => ""

/-- The characters of a datum after its name. -/
def Datum.afterName (escaped : EscapeSet) (layout : Layout) : Datum → List Char
  | .word _ => []
  | .wrapped _ content =>
    '(' :: ((layout.opening "").toList ++
      (content.characters escaped layout.inner ++ layout.ending .round))
  | .record _ fields =>
    ' ' :: '\x7b' :: ((layout.opening " ").toList ++
      (fieldCharacters escaped layout fields ++ layout.ending .curly))
  | datum => datum.characters escaped layout

/-- The text of a datum is its name and what stands after it. -/
theorem Datum.characters_eq (escaped : EscapeSet) (layout : Layout) (datum : Datum) :
    datum.characters escaped layout = datum.name.toList ++ datum.afterName escaped layout := by
  cases datum with
  | word name => simp [Datum.characters, Datum.name, Datum.afterName]
  | wrapped name content => rw [Datum.characters, Datum.name, Datum.afterName]
  | record name fields => rw [Datum.characters, Datum.name, Datum.afterName]
  | _ => simp [Datum.name, Datum.afterName]

/-- A readable datum that starts with a word has a word as its name. -/
theorem Datum.isWord_name {datum : Datum} (hreadable : datum.isReadable = true)
    (hlead : datum.lead = .word) : isWord datum.name = true := by
  cases datum with
  | word name =>
    rw [Datum.isReadable] at hreadable
    exact hreadable
  | wrapped name content =>
    simp only [Datum.isReadable, Bool.and_eq_true] at hreadable
    exact hreadable.1
  | record name fields =>
    simp only [Datum.isReadable, Bool.and_eq_true] at hreadable
    exact hreadable.1
  | _ => cases hlead

/-- What stands after a name does not go on with the name. -/
theorem Datum.not_isWordCharacter_afterName {escaped : EscapeSet} {layout : Layout}
    {datum : Datum} {rest : List Char} (hlead : datum.lead = .word)
    (hrest : isBoundary rest = true) :
    ∀ character ∈ (datum.afterName escaped layout ++ rest).head?,
      ¬ isWordCharacter character = true := by
  cases datum with
  | word name => exact not_isWordCharacter_of_isBoundary hrest
  | wrapped name content =>
    intro character hcharacter
    obtain rfl : '(' = character := by simpa [Datum.afterName] using hcharacter
    decide
  | record name fields =>
    intro character hcharacter
    obtain rfl : ' ' = character := by simpa [Datum.afterName] using hcharacter
    decide
  | _ => cases hlead

/-- Data that start with a word have the same name and the same text after it. -/
theorem Datum.name_append_inj {escaped : EscapeSet} {layout : Layout} {first second : Datum}
    {rest other : List Char} (hfirst : first.isReadable = true)
    (hsecond : second.isReadable = true) (hrest : isBoundary rest = true)
    (hother : isBoundary other = true) (hlead : first.lead = .word)
    (hlead' : second.lead = .word)
    (h : first.characters escaped layout ++ rest = second.characters escaped layout ++ other) :
    first.name = second.name ∧ first.afterName escaped layout ++ rest =
      second.afterName escaped layout ++ other := by
  rw [Datum.characters_eq, Datum.characters_eq, List.append_assoc, List.append_assoc] at h
  exact word_append_inj (Datum.isWord_name hfirst hlead) (Datum.isWord_name hsecond hlead')
    (Datum.not_isWordCharacter_afterName hlead hrest)
    (Datum.not_isWordCharacter_afterName hlead' hother) h

/-- A datum is told from every other readable datum, and from what follows it. -/
def Datum.ReadOneWay (escaped : EscapeSet) (first : Datum) : Prop :=
  ∀ (second : Datum) (layout : Layout) (rest other : List Char),
    first.isReadable = true → second.isReadable = true →
    isBoundary rest = true → isBoundary other = true →
    first.characters escaped layout ++ rest = second.characters escaped layout ++ other →
    first = second ∧ rest = other

/-- A word is read in one way: neither a wrapper nor a record has a boundary after its name. -/
theorem Datum.readOneWay_word (escaped : EscapeSet) (name : String) :
    (Datum.word name).ReadOneWay escaped := by
  intro second layout rest other hfirst hsecond hrest hother h
  have hlead := Datum.lead_eq hfirst hsecond h
  obtain ⟨hname, hafter⟩ :=
    Datum.name_append_inj hfirst hsecond hrest hother rfl hlead.symm h
  cases second with
  | word name' => exact ⟨congrArg Datum.word hname, hafter⟩
  | wrapped name' content =>
    obtain rfl : rest = '(' :: _ := hafter
    cases hrest
  | record name' fields =>
    obtain rfl : rest = ' ' :: '\x7b' :: _ := hafter
    cases hrest
  | _ => cases hlead

/-- An integer is read in one way. -/
theorem Datum.readOneWay_integer (escaped : EscapeSet) (value : Int) :
    (Datum.integer value).ReadOneWay escaped := by
  intro second layout rest other hfirst hsecond hrest hother h
  have hlead := Datum.lead_eq hfirst hsecond h
  cases second with
  | integer value' =>
    simp only [Datum.characters] at h
    obtain ⟨hnumerals, hrests⟩ := run_append_inj (isNumeral · = true)
      (fun _ => isNumeral_of_mem_repr) (fun _ => isNumeral_of_mem_repr)
      (not_isNumeral_of_isBoundary hrest) (not_isNumeral_of_isBoundary hother) h
    exact ⟨congrArg Datum.integer (Int.repr_injective (String.toList_inj.mp hnumerals)), hrests⟩
  | _ => cases hlead

/-- A text is read in one way. -/
theorem Datum.readOneWay_text (escaped : EscapeSet) (content : String) :
    (Datum.text content).ReadOneWay escaped := by
  intro second layout rest other hfirst hsecond _ _ h
  have hlead := Datum.lead_eq hfirst hsecond h
  cases second with
  | text content' =>
    simp only [Datum.characters] at h
    obtain ⟨rfl, hrests⟩ := quoted_append_inj h
    exact ⟨rfl, hrests⟩
  | _ => cases hlead

/-- A wrapper is read in one way if its content is. -/
theorem Datum.readOneWay_wrapped {escaped : EscapeSet} (name : String) {content : Datum}
    (ih : content.ReadOneWay escaped) : (Datum.wrapped name content).ReadOneWay escaped := by
  intro second layout rest other hfirst hsecond hrest hother h
  have hlead := Datum.lead_eq hfirst hsecond h
  obtain ⟨hname, hafter⟩ :=
    Datum.name_append_inj hfirst hsecond hrest hother rfl hlead.symm h
  cases second with
  | word name' =>
    obtain rfl : '(' :: _ = other := hafter
    cases hother
  | wrapped name' content' =>
    simp only [Datum.isReadable, Bool.and_eq_true] at hfirst hsecond
    simp only [Datum.afterName, List.cons_append, List.cons.injEq, List.append_assoc,
      List.append_cancel_left_eq, true_and] at hafter
    obtain ⟨rfl, hends⟩ := ih content' layout.inner _ _ hfirst.2 hsecond.2
      (isBoundary_ending layout .round rest) (isBoundary_ending layout .round other) hafter
    exact ⟨congrArg (Datum.wrapped · content) hname, List.append_cancel_left hends⟩
  | record name' fields => simp [Datum.afterName] at hafter
  | _ => cases hlead

/-- A sequence is read in one way if its entries are. -/
theorem Datum.readOneWay_sequence {escaped : EscapeSet} {items : Chain Datum}
    (ih : ∀ item ∈ items.toList, item.ReadOneWay escaped) :
    (Datum.sequence items).ReadOneWay escaped := by
  intro second layout rest other hfirst hsecond _ _ h
  have hlead := Datum.lead_eq hfirst hsecond h
  cases second with
  | sequence items' =>
    simp only [Datum.isReadable, itemsReadable_iff] at hfirst hsecond
    simp only [Datum.characters, itemCharacters_eq_joinEntries, List.cons_append,
      List.cons.injEq, List.append_assoc, List.append_cancel_left_eq, true_and] at h
    obtain ⟨rfl, hrests⟩ := joinEntries_append_inj
      (fun item hitem item' hitem' rest other hrest hother hitems =>
        ih item hitem item' layout.inner rest other (hfirst item hitem) (hsecond item' hitem')
          hrest hother hitems) h
    exact ⟨rfl, hrests⟩
  | _ => cases hlead

/-- A labelled field is read in one way if its datum is. -/
theorem labelledCharacters_append_inj {escaped : EscapeSet} {layout : Layout}
    {first second : String × Datum} {rest other : List Char} (ih : first.2.ReadOneWay escaped)
    (hfirst : isWord first.1 = true ∧ first.2.isReadable = true)
    (hsecond : isWord second.1 = true ∧ second.2.isReadable = true)
    (hrest : isBoundary rest = true) (hother : isBoundary other = true)
    (h : labelledCharacters escaped layout first ++ rest =
      labelledCharacters escaped layout second ++ other) : first = second ∧ rest = other := by
  obtain ⟨label, field⟩ := first
  obtain ⟨label', field'⟩ := second
  simp only [labelledCharacters, List.append_assoc, List.cons_append] at h
  obtain ⟨rfl, hfields⟩ := word_append_inj hfirst.1 hsecond.1 (by simp; decide)
    (by simp; decide) h
  simp only [List.cons.injEq, true_and] at hfields
  obtain ⟨rfl, hrests⟩ := ih field' layout rest other hfirst.2 hsecond.2 hrest hother hfields
  exact ⟨rfl, hrests⟩

/-- A record is read in one way if its fields are. -/
theorem Datum.readOneWay_record {escaped : EscapeSet} (name : String)
    {fields : Chain (String × Datum)}
    (ih : ∀ field ∈ fields.toList, field.2.ReadOneWay escaped) :
    (Datum.record name fields).ReadOneWay escaped := by
  intro second layout rest other hfirst hsecond hrest hother h
  have hlead := Datum.lead_eq hfirst hsecond h
  obtain ⟨hname, hafter⟩ :=
    Datum.name_append_inj hfirst hsecond hrest hother rfl hlead.symm h
  cases second with
  | word name' =>
    obtain rfl : ' ' :: '\x7b' :: _ = other := hafter
    cases hother
  | wrapped name' content' => simp [Datum.afterName] at hafter
  | record name' fields' =>
    simp only [Datum.isReadable, Bool.and_eq_true, fieldsReadable_iff] at hfirst hsecond
    simp only [Datum.afterName, fieldCharacters_eq_joinEntries, List.cons_append,
      List.cons.injEq, List.append_assoc, List.append_cancel_left_eq, true_and] at hafter
    obtain ⟨rfl, hrests⟩ := joinEntries_append_inj
      (fun field hfield field' hfield' rest other hrest hother hfields =>
        labelledCharacters_append_inj (ih field hfield) (hfirst.2 field hfield)
          (hsecond.2 field' hfield') hrest hother hfields) hafter
    exact ⟨congrArg (Datum.record · fields) hname, hrests⟩
  | _ => cases hlead

mutual

/-- Every datum is read in one way. -/
theorem Datum.readOneWay (escaped : EscapeSet) : ∀ datum : Datum, datum.ReadOneWay escaped
  | .word name => Datum.readOneWay_word escaped name
  | .integer value => Datum.readOneWay_integer escaped value
  | .text content => Datum.readOneWay_text escaped content
  | .wrapped name content => Datum.readOneWay_wrapped name (Datum.readOneWay escaped content)
  | .sequence items => Datum.readOneWay_sequence (readOneWay_items escaped items)
  | .record name fields => Datum.readOneWay_record name (readOneWay_fields escaped fields)

/-- Every entry of a sequence is read in one way. -/
theorem readOneWay_items (escaped : EscapeSet) :
    ∀ items : Chain Datum, ∀ item ∈ items.toList, item.ReadOneWay escaped
  | .last item => by
    rw [Chain.toList_last, List.forall_mem_singleton]
    exact Datum.readOneWay escaped item
  | .link item items => by
    rw [Chain.toList_link, List.forall_mem_cons]
    exact ⟨Datum.readOneWay escaped item, readOneWay_items escaped items⟩

/-- Every field of a record is read in one way. -/
theorem readOneWay_fields (escaped : EscapeSet) :
    ∀ fields : Chain (String × Datum), ∀ field ∈ fields.toList, field.2.ReadOneWay escaped
  | .last (label, field) => by
    rw [Chain.toList_last, List.forall_mem_singleton]
    exact Datum.readOneWay escaped field
  | .link (label, field) fields => by
    rw [Chain.toList_link, List.forall_mem_cons]
    exact ⟨Datum.readOneWay escaped field, readOneWay_fields escaped fields⟩

end

/-- Readable data with the same text in a layout are equal. -/
theorem Datum.toText_inj {escaped : EscapeSet} {layout : Layout} {first second : Datum}
    (hfirst : first.isReadable = true) (hsecond : second.isReadable = true)
    (h : first.toText escaped layout = second.toText escaped layout) : first = second := by
  have hcharacters : first.characters escaped layout ++ [] =
      second.characters escaped layout ++ [] := by
    simpa [Datum.toText, Datum.toList_write] using congrArg String.toList h
  exact (Datum.readOneWay escaped first second layout [] [] hfirst hsecond rfl rfl hcharacters).1

end ProgramTree
