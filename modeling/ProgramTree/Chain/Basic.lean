/-!
# Chains of linked entries

A chain is a nonempty sequence in which every entry owns the rest of the sequence after it.
Chains hold statement lists of any length, so every operation here walks the links in a loop
with an accumulator and keeps no pending work per entry.

The list of entries is the view through which the operations are described: walking, counting,
appending and relinking each have one equation about `Chain.toList`.
-/

namespace ProgramTree

/-- A nonempty sequence of linked entries. -/
inductive Chain (α : Type) where
  /-- An entry with nothing linked after it. -/
  | last (head : α)
  /-- An entry linked to the chain that follows it. -/
  | link (head : α) (next : Chain α)

variable {α β : Type}

/-- The first entry of a chain. -/
def Chain.head : Chain α → α
  | .last head => head
  | .link head _ => head

/-- The chain linked after the first entry, if there is one. -/
def Chain.next? : Chain α → Option (Chain α)
  | .last _ => none
  | .link _ next => some next

/-- Place an entry in front of an optional chain. -/
def Chain.cons (head : α) : Option (Chain α) → Chain α
  | none => .last head
  | some next => .link head next

/-- Replace whatever is linked after the first entry. -/
def Chain.setNext (chain : Chain α) (next : Option (Chain α)) : Chain α :=
  .cons chain.head next

/-- Replace the first entry and keep what is linked after it. -/
def Chain.setHead (chain : Chain α) (head : α) : Chain α :=
  .cons head chain.next?

/-- The first entry on its own, without the rest of its chain. -/
def Chain.detached (chain : Chain α) : Chain α :=
  .last chain.head

/-- Combine the entries from first to last. -/
def Chain.foldl (step : β → α → β) (initial : β) : Chain α → β
  | .last head => step initial head
  | .link head next => next.foldl step (step initial head)

/-- The entries from last to first. -/
def Chain.toReverseList (chain : Chain α) : List α :=
  chain.foldl (fun entries head => head :: entries) []

/-- The entries from first to last. -/
def Chain.toList (chain : Chain α) : List α :=
  chain.toReverseList.reverse

/-- The number of entries. -/
def Chain.length (chain : Chain α) : Nat :=
  chain.foldl (fun count _ => count + 1) 0

/-- Place entries in front of a chain, the first of them nearest to it. -/
def Chain.linkBefore (chain : Chain α) (entries : List α) : Chain α :=
  entries.foldl (fun chain head => .link head chain) chain

/-- Link the second chain after the last entry of the first. -/
def Chain.append (first second : Chain α) : Chain α :=
  second.linkBefore first.toReverseList

/-- Append several chains in order to the first one. -/
def Chain.appendAll (first : Chain α) (others : List (Chain α)) : Chain α :=
  others.foldl Chain.append first

/-- Collect the chain and every chain reached from it by following links, in front of
the already collected ones, which stand in reverse. -/
def Chain.suffixesOnto (collected : List (Chain α)) : Chain α → List (Chain α)
  | .last head => (.last head :: collected).reverse
  | .link head next => next.suffixesOnto (.link head next :: collected)

/-- The chain itself and every chain reached from it by following links, in order. -/
def Chain.suffixes (chain : Chain α) : List (Chain α) :=
  chain.suffixesOnto []

/-- Link the first entries of the given chains in order, working from the last to the first.

The link that a given chain carries is replaced, so only its first entry takes part. -/
def Chain.relink (chains : List (Chain α)) : Option (Chain α) :=
  chains.reverse.foldl (fun rest chain => some (chain.setNext rest)) none

/-- The first entry of an entry placed in front is that entry. -/
@[simp]
theorem Chain.head_cons (head : α) (rest : Option (Chain α)) :
    (Chain.cons head rest).head = head := by
  cases rest <;> rfl

/-- The rest after an entry placed in front is the chain it was placed on. -/
@[simp]
theorem Chain.next?_cons (head : α) (rest : Option (Chain α)) :
    (Chain.cons head rest).next? = rest := by
  cases rest <;> rfl

/-- Splitting off the first entry and placing it back changes nothing. -/
@[simp]
theorem Chain.cons_head_next? (chain : Chain α) : Chain.cons chain.head chain.next? = chain := by
  cases chain <;> rfl

/-- Folding a chain is folding the list of its entries. -/
theorem Chain.foldl_eq_foldl_toList (step : β → α → β) (initial : β) (chain : Chain α) :
    chain.foldl step initial = chain.toList.foldl step initial := by
  have general : ∀ (chain : Chain α) (initial : β) (entries : List α),
      chain.foldl step (entries.foldr (fun head result => step result head) initial) =
        (chain.foldl (fun entries head => head :: entries) entries).foldr
          (fun head result => step result head) initial := by
    intro chain
    induction chain with
    | last head => intros; rfl
    | link head next ih =>
      intro initial entries
      exact ih initial (head :: entries)
  simpa [Chain.toList, Chain.toReverseList] using general chain initial []

/-- Collecting entries in reverse puts those of the chain in front of the collected ones. -/
theorem Chain.foldl_flip_cons (chain : Chain α) (entries : List α) :
    chain.foldl (fun entries head => head :: entries) entries = chain.toReverseList ++ entries := by
  rw [foldl_eq_foldl_toList, List.foldl_flip_cons_eq_append, Chain.toList, List.map_id',
    List.reverse_reverse]

/-- A single entry is the only one in its list. -/
@[simp]
theorem Chain.toList_last (head : α) : (Chain.last head).toList = [head] := rfl

/-- A linked entry stands before the entries that follow it. -/
@[simp]
theorem Chain.toList_link (head : α) (next : Chain α) :
    (Chain.link head next).toList = head :: next.toList := by
  show (next.foldl (fun entries head => head :: entries) [head]).reverse = _
  rw [foldl_flip_cons, List.reverse_append]
  rfl

/-- The reversed entries are those of the list, last first. -/
theorem Chain.toReverseList_eq (chain : Chain α) : chain.toReverseList = chain.toList.reverse := by
  simp [Chain.toList]

/-- Every chain has an entry. -/
theorem Chain.toList_ne_nil (chain : Chain α) : chain.toList ≠ [] := by
  cases chain <;> simp

/-- A chain is determined by its entries. -/
theorem Chain.toList_injective {first second : Chain α} (h : first.toList = second.toList) :
    first = second := by
  induction first generalizing second with
  | last head =>
    cases second with
    | last other => simpa using h
    | link other next =>
      simp only [toList_last, toList_link, List.cons.injEq] at h
      exact absurd h.2.symm next.toList_ne_nil
  | link head next ih =>
    cases second with
    | last other =>
      simp only [toList_last, toList_link, List.cons.injEq] at h
      exact absurd h.2 next.toList_ne_nil
    | link other rest =>
      simp only [toList_link, List.cons.injEq] at h
      rw [h.1, ih h.2]

/-- The length counts the entries. -/
theorem Chain.length_eq_length_toList (chain : Chain α) : chain.length = chain.toList.length := by
  rw [Chain.length, foldl_eq_foldl_toList]
  have general : ∀ (entries : List α) (count : Nat),
      entries.foldl (fun count _ => count + 1) count = count + entries.length := by
    intro entries
    induction entries with
    | nil => intro count; rfl
    | cons head rest ih =>
      intro count
      rw [List.foldl_cons, ih, List.length_cons]
      omega
  rw [general, Nat.zero_add]

/-- Entries placed in front of a chain stand in reverse before its own. -/
@[simp]
theorem Chain.toList_linkBefore (chain : Chain α) (entries : List α) :
    (chain.linkBefore entries).toList = entries.reverse ++ chain.toList := by
  induction entries generalizing chain with
  | nil => rfl
  | cons head rest ih =>
    show ((Chain.link head chain).linkBefore rest).toList = _
    simp [ih]

/-- Appending chains concatenates their entries. -/
@[simp]
theorem Chain.toList_append (first second : Chain α) :
    (first.append second).toList = first.toList ++ second.toList := by
  simp [Chain.append, toReverseList_eq]

/-- Appending to a linked entry appends to what is linked after it. -/
theorem Chain.append_link (head : α) (next second : Chain α) :
    (Chain.link head next).append second = .link head (next.append second) := by
  apply Chain.toList_injective
  simp

/-- Relinking nothing gives no chain. -/
@[simp]
theorem Chain.relink_nil : Chain.relink ([] : List (Chain α)) = none := rfl

/-- Relinking puts the first entry of the first chain before the relinked others. -/
@[simp]
theorem Chain.relink_cons (chain : Chain α) (chains : List (Chain α)) :
    Chain.relink (chain :: chains) = some (.cons chain.head (Chain.relink chains)) := by
  simp [Chain.relink, Chain.setNext]

/-- Collected chains stand in reverse before the suffixes of the walked chain. -/
theorem Chain.suffixesOnto_eq (collected : List (Chain α)) (chain : Chain α) :
    chain.suffixesOnto collected = collected.reverse ++ chain.suffixes := by
  induction chain generalizing collected with
  | last head => simp [Chain.suffixesOnto, Chain.suffixes]
  | link head next ih =>
    rw [Chain.suffixes, Chain.suffixesOnto, Chain.suffixesOnto, ih, ih [_]]
    simp

/-- A single entry has itself as its only suffix. -/
@[simp]
theorem Chain.suffixes_last (head : α) : (Chain.last head).suffixes = [.last head] := rfl

/-- The suffixes of a linked entry are the whole chain and the suffixes of the rest. -/
@[simp]
theorem Chain.suffixes_link (head : α) (next : Chain α) :
    (Chain.link head next).suffixes = .link head next :: next.suffixes := by
  rw [Chain.suffixes, Chain.suffixesOnto, suffixesOnto_eq]
  rfl

/-- The first entries of the suffixes are the entries of the chain. -/
theorem Chain.map_head_suffixes (chain : Chain α) :
    chain.suffixes.map Chain.head = chain.toList := by
  induction chain with
  | last head => rfl
  | link head next ih => simp [ih, Chain.head]

end ProgramTree
