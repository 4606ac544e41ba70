import Mathlib.Data.List.DropRight
import ProgramTree.Proofs.AlternativeOutline
import ProgramTree.Proofs.PrintedRows

/-!
# Every printed alternative belongs to one conditional

A row of a printed text is enclosed by the nearest row before it that is not indented more. Of the
rows at its own indent a row encloses one at most: the one that ends the run of rows after it that
are indented more.

The row before an alternative is enclosed by that of its conditional, at the same indent. The row
of a conditional without an alternative encloses no such row, whatever is linked after it and
wherever it is nested: the rows of its branches are indented more, and what follows them is
another form or is indented less.
-/

namespace ProgramTree

/-! ## The row around a row -/

/-- The position of the nearest row before a position that is not indented more than the row
there. -/
def enclosing? (shown : List Row) (position : Nat) : Option Nat :=
  shown[position]?.bind fun row =>
    match ((shown.take position).rdropWhile (row.indent < ·.indent)).length with
    | 0 => none
    | outer + 1 => some outer

/-- An item of a list divides it into what stands before and after it. -/
theorem exists_split_of_getElem? {α : Type} {items : List α} {position : Nat} {item : α}
    (h : items[position]? = some item) :
    ∃ before after, items = before ++ item :: after ∧ before.length = position := by
  obtain ⟨hposition, rfl⟩ := List.getElem?_eq_some_iff.mp h
  refine ⟨items.take position, items.drop (position + 1), ?_, List.length_take_of_le hposition.le⟩
  rw [← List.drop_eq_getElem_cons hposition, List.take_append_drop]

/-- The row that encloses another is the last one before it that is not passed over. -/
theorem enclosing?_length_append (before after : List Row) (row : Row) :
    enclosing? (before ++ row :: after) before.length =
      match (before.rdropWhile (row.indent < ·.indent)).length with
      | 0 => none
      | outer + 1 => some outer := by
  simp [enclosing?]

/-- A row encloses another if it is not indented more and all rows between the two are. -/
theorem enclosing?_eq_some {opening row : Row} {inner : List Row}
    (hopening : opening.indent ≤ row.indent) (hinner : ∀ other ∈ inner, row.indent < other.indent)
    (outer after : List Row) :
    enclosing? (outer ++ opening :: inner ++ row :: after) (outer ++ opening :: inner).length =
      some outer.length := by
  have hdeeper : ∀ other ∈ inner.reverse, decide (row.indent < other.indent) = true := by
    intro other hmem
    exact decide_eq_true (hinner other (List.mem_reverse.mp hmem))
  have hpassed : (outer ++ opening :: inner).rdropWhile (row.indent < ·.indent) =
      outer ++ [opening] := by
    rw [List.rdropWhile, List.reverse_append, List.reverse_cons, List.append_assoc,
      List.dropWhile_append_of_pos hdeeper, List.singleton_append,
      List.dropWhile_cons_of_neg (by simpa using hopening), List.reverse_cons, List.reverse_reverse]
  rw [enclosing?_length_append, hpassed, List.length_append]
  rfl

/-- Between a row and the row that encloses it stand only rows that are indented more. -/
theorem exists_split_of_enclosing? {shown : List Row} {position opener : Nat} {row : Row}
    (hrow : shown[position]? = some row) (h : enclosing? shown position = some opener) :
    ∃ outer opening inner after, shown = outer ++ opening :: inner ++ row :: after ∧
      outer.length = opener ∧ (outer ++ opening :: inner).length = position ∧
      opening.indent ≤ row.indent ∧ ∀ other ∈ inner, row.indent < other.indent := by
  obtain ⟨before, after, rfl, rfl⟩ := exists_split_of_getElem? hrow
  rw [enclosing?_length_append] at h
  rcases List.eq_nil_or_concat' (before.rdropWhile (row.indent < ·.indent)) with
    hnone | ⟨outer, opening, hsome⟩
  · rw [hnone] at h
    cases h
  · have hopening : ¬ row.indent < opening.indent := by
      have hlast := List.rdropWhile_last_not (row.indent < ·.indent) before (by simp [hsome])
      simpa [hsome] using hlast
    have hdeeper : ∀ other ∈ before.rtakeWhile (row.indent < ·.indent),
        row.indent < other.indent := by
      intro other hmem
      simpa using List.mem_rtakeWhile_imp hmem
    have hparts : before.rdropWhile (row.indent < ·.indent) ++
        before.rtakeWhile (row.indent < ·.indent) = before := List.rdropWhile_append_rtakeWhile
    rw [hsome, List.append_assoc, List.singleton_append] at hparts
    rw [hsome, List.length_append] at h
    exact ⟨outer, opening, _, after, by rw [hparts], Option.some.inj h, by rw [hparts],
      Nat.le_of_not_lt hopening, hdeeper⟩

/-- Of the rows at its own indent, a row encloses only the one that ends the run of rows after it
that are indented more. -/
theorem enclosing?_eq_some_iff_of_run {opening row : Row} {run rest : List Row}
    (hrun : ∀ other ∈ run, opening.indent < other.indent)
    (hrest : ∀ other ∈ rest.head?, other.indent ≤ opening.indent)
    (hindent : row.indent = opening.indent) (before : List Row) (position : Nat) :
    (before ++ opening :: (run ++ rest))[position]? = some row ∧
        enclosing? (before ++ opening :: (run ++ rest)) position = some before.length ↔
      position = (before ++ opening :: run).length ∧ rest.head? = some row := by
  constructor
  · rintro ⟨hrow, henclosing⟩
    obtain ⟨outer, opening', inner, after, hshown, hlength, rfl, -, hinner⟩ :=
      exists_split_of_enclosing? hrow henclosing
    rw [List.append_assoc, List.cons_append] at hshown
    obtain ⟨rfl, htail⟩ := List.append_inj hshown hlength.symm
    obtain ⟨rfl, hruns⟩ := List.cons.inj htail
    -- Both runs end at the first row that is not indented more.
    rw [hindent] at hinner
    obtain ⟨rfl, rfl⟩ := run_append_inj (fun other : Row => opening.indent < other.indent) hrun
      hinner (fun other hother => Nat.not_lt.mpr (hrest other hother))
      (fun other hother => by simpa [← Option.some.inj hother] using hindent.le) hruns
    exact ⟨rfl, rfl⟩
  · rintro ⟨rfl, hhead⟩
    obtain ⟨after, rfl⟩ := List.head?_eq_some_iff.mp hhead
    rw [← hindent] at hrun
    rw [← List.cons_append, ← List.append_assoc]
    exact ⟨by simp, enclosing?_eq_some hindent.ge hrun before after⟩

/-- A row encloses at most one row at its own indent. -/
theorem eq_of_enclosing?_eq {shown : List Row} {first second opener : Nat}
    {opening row other : Row} (hopening : shown[opener]? = some opening)
    (hrow : shown[first]? = some row) (hindent : row.indent = opening.indent)
    (hfirst : enclosing? shown first = some opener) (hother : shown[second]? = some other)
    (hindent' : other.indent = opening.indent)
    (hsecond : enclosing? shown second = some opener) : first = second := by
  obtain ⟨outer, opening', inner, after, rfl, rfl, rfl, -, hinner⟩ :=
    exists_split_of_enclosing? hrow hfirst
  obtain rfl : opening' = opening := by simpa using hopening
  rw [hindent] at hinner
  have hrest : ∀ item ∈ (row :: after).head?, item.indent ≤ opening'.indent := by
    intro item hitem
    rw [← Option.some.inj hitem]
    exact hindent.le
  rw [List.append_assoc, List.cons_append] at hother hsecond
  exact ((enclosing?_eq_some_iff_of_run hinner hrest hindent' outer second).mp
    ⟨hother, hsecond⟩).1.symm

/-! ## The rows of alternatives -/

/-- The row of a line shows its depth and its label. -/
theorem Line.row_injective {level : Nat} {first second : Line}
    (h : first.row level = second.row level) : first = second := by
  obtain ⟨depth, label⟩ := first
  obtain ⟨depth', label'⟩ := second
  obtain ⟨hindent, rfl⟩ := Row.mk.inj h
  obtain rfl : depth = depth' := by
    change 2 * (level + depth) = 2 * (level + depth') at hindent
    omega
  rfl

/-- Deeper lines have rows that are indented more. -/
theorem indent_lt_of_mem_map_row {line : Line} {deeper : List Line}
    (h : ∀ other ∈ deeper, line.depth < other.depth) (level : Nat) :
    ∀ row ∈ deeper.map (Line.row level), (line.row level).indent < row.indent := by
  intro row hrow
  obtain ⟨other, hother, rfl⟩ := List.mem_map.mp hrow
  have hdeeper := h other hother
  change 2 * (level + line.depth) < 2 * (level + other.depth)
  omega

/-- The row of an alternative is enclosed by that of a conditional at its own indent. -/
theorem AlternativesOpened.exists_enclosing? {outline : List Line} (h : AlternativesOpened outline)
    {level position : Nat} {row : Row}
    (hrow : (outline.map (Line.row level))[position]? = some row) (hlabel : row.label = elseLabel) :
    ∃ opener, enclosing? (outline.map (Line.row level)) position = some opener ∧
      (outline.map (Line.row level))[opener]? = some ⟨row.indent, "If"⟩ := by
  rw [List.getElem?_map, Option.map_eq_some_iff] at hrow
  obtain ⟨⟨depth, label⟩, hline, rfl⟩ := hrow
  obtain rfl : label = elseLabel := hlabel
  obtain ⟨before, after, rfl, rfl⟩ := exists_split_of_getElem? hline
  obtain ⟨outer, inner, rfl, hdeeper⟩ := h before after depth rfl
  have hopening : (Line.row level ⟨depth, "If"⟩).indent ≤
      (Line.row level ⟨depth, elseLabel⟩).indent := le_rfl
  refine ⟨outer.length, ?_, by simp [Line.row]⟩
  simpa using enclosing?_eq_some hopening (indent_lt_of_mem_map_row hdeeper level)
    (outer.map (Line.row level)) (after.map (Line.row level))

/-- The row of a conditional encloses that of an alternative exactly if the rows of its branches
are followed by that of its own alternative. -/
theorem AlternativesOpened.exists_enclosed_iff {before branches rest : List Line} {depth : Nat}
    (h : AlternativesOpened (before ++ ⟨depth, "If"⟩ :: (branches ++ rest)))
    (hbranches : ∀ line ∈ branches, depth < line.depth)
    (hrest : ∀ line ∈ rest.head?, line.depth ≤ depth) (level : Nat) :
    let shown := (before ++ ⟨depth, "If"⟩ :: (branches ++ rest)).map (Line.row level)
    (∃ position, ∃ row ∈ shown[position]?, row.label = elseLabel ∧
      enclosing? shown position = some before.length) ↔ rest.head? = some ⟨depth, elseLabel⟩ := by
  intro shown
  have hshown : shown = before.map (Line.row level) ++
      Line.row level ⟨depth, "If"⟩ ::
        (branches.map (Line.row level) ++ rest.map (Line.row level)) := by
    simp [shown]
  have hrun : ∀ row ∈ branches.map (Line.row level),
      (Line.row level ⟨depth, "If"⟩).indent < row.indent :=
    indent_lt_of_mem_map_row hbranches level
  have hends : ∀ row ∈ (rest.map (Line.row level)).head?,
      row.indent ≤ (Line.row level ⟨depth, "If"⟩).indent := by
    intro row hrow
    rw [List.head?_map] at hrow
    obtain ⟨line, hline, rfl⟩ := Option.map_eq_some_iff.mp hrow
    exact Nat.mul_le_mul_left 2 (Nat.add_le_add_left (hrest line hline) level)
  have hindent : (Line.row level ⟨depth, elseLabel⟩).indent =
      (Line.row level ⟨depth, "If"⟩).indent := rfl
  have hiff := enclosing?_eq_some_iff_of_run hrun hends hindent (before.map (Line.row level))
  rw [← hshown, List.length_map] at hiff
  constructor
  · rintro ⟨position, row, hrow, hlabel, henclosing⟩
    -- The enclosing row is at the same indent, so the row is that of an alternative as deep.
    obtain ⟨opener, hopener, hopening⟩ := h.exists_enclosing? hrow hlabel
    obtain rfl : before.length = opener := Option.some.inj (henclosing.symm.trans hopener)
    have hline : shown[before.length]? = some (Line.row level ⟨depth, "If"⟩) := by simp [shown]
    have hopened := Option.some.inj (hline.symm.trans hopening)
    obtain rfl : row = Line.row level ⟨depth, elseLabel⟩ :=
      Row.ext (congrArg Row.indent hopened).symm hlabel
    have hhead := ((hiff position).mp ⟨hrow, henclosing⟩).2
    rw [List.head?_map] at hhead
    obtain ⟨line, hline, hsame⟩ := Option.map_eq_some_iff.mp hhead
    rw [hline, Line.row_injective hsame]
  · intro hhead
    obtain ⟨hrow, henclosing⟩ := (hiff _).mpr ⟨rfl, by rw [List.head?_map, hhead]; rfl⟩
    exact ⟨_, _, hrow, rfl, henclosing⟩

/-! ## Conditionals and their alternatives in a printed tree -/

/-- Every line before an alternative belongs to one conditional, at its own indent.

The text of a tree whose names hold no line feeds is divided into lines, and each line is read as
its indent and its label. There are as many lines before an alternative as conditionals with one.
The nearest line before such a line that is not indented more is that of a conditional at the same
indent, and it is a different one for each of them. The lines of a node that a path leads to stand
after those of its context; if the node is a conditional, its line is found in this way from the
line before an alternative exactly if it has one. -/
theorem alternatives_belong_to_conditionals {node : Node} {level : UInt64} {text : String}
    (hnames : OneLineNames node.names) (hrender : render (some node) level = .ok text) :
    (rows text).countP (·.label = "Else") = node.alternatives ∧
    (∀ position, ∀ row ∈ (rows text)[position]?, row.label = "Else" →
      ∃ opener, enclosing? (rows text) position = some opener ∧
        (rows text)[opener]? = some ⟨row.indent, "If"⟩) ∧
    (∀ first second opener, ∀ row ∈ (rows text)[first]?, ∀ other ∈ (rows text)[second]?,
      row.label = "Else" → other.label = "Else" →
        enclosing? (rows text) first = some opener →
          enclosing? (rows text) second = some opener → first = second) ∧
    ∀ (path : List String) (context : Context) (inner : Node),
      node.walk path = .ok (context, inner) →
        (∃ own, render (some inner) (level + UInt64.ofNat context.depth) = .ok own ∧
          rows own <+: (rows text).drop context.linesBefore.length) ∧
        ∀ condition thenBranch elseBranch,
          inner.head = .conditional condition thenBranch elseBranch →
            ((∃ position, ∃ row ∈ (rows text)[position]?, row.label = "Else" ∧
              enclosing? (rows text) position = some context.linesBefore.length) ↔
                elseBranch.isSome) := by
  have hrows := rows_of_render hnames hrender
  have hopened : ∀ position, ∀ row ∈ (rows text)[position]?, row.label = "Else" →
      ∃ opener, enclosing? (rows text) position = some opener ∧
        (rows text)[opener]? = some ⟨row.indent, "If"⟩ := by
    rw [hrows]
    intro position row hrow hlabel
    exact (Node.alternativesOpened_outline node).exists_enclosing? hrow hlabel
  refine ⟨?_, hopened, ?_, ?_⟩
  · rw [hrows, List.countP_map, ← Node.countAlternatives_outline]
    rfl
  · intro first second opener row hrow other hother hlabel hlabel' hfirst hsecond
    obtain ⟨position, hposition, hopening⟩ := hopened first row hrow hlabel
    obtain ⟨position', hposition', hopening'⟩ := hopened second other hother hlabel'
    obtain rfl : opener = position := Option.some.inj (hfirst.symm.trans hposition)
    obtain rfl : opener = position' := Option.some.inj (hsecond.symm.trans hposition')
    have hindents := congrArg Row.indent (Option.some.inj (hopening.symm.trans hopening'))
    exact eq_of_enclosing?_eq hopening hrow rfl hfirst hother hindents.symm hsecond
  · intro path context inner hwalk
    refine ⟨rows_isPrefix_of_walk hnames hrender hwalk, ?_⟩
    intro condition thenBranch elseBranch hconditional
    obtain ⟨-, rfl⟩ := Node.walk_eq_ok_iff.mp hwalk
    obtain ⟨branches, rest, houtline, hbranches, hrest, halternative⟩ :=
      context.outline_fill_conditional hconditional
    have hnested := Node.alternativesOpened_outline (context.fill inner)
    rw [houtline] at hnested
    rw [hrows, houtline, ← halternative]
    exact hnested.exists_enclosed_iff hbranches hrest level.toNat

/-- A conditional without an alternative at the end of a branch does not take the one that follows
it, whatever the names are. -/
theorem alternatives_belong_to_conditionals_past_nested :
    let nested := Node.conditional (Node.reference "If") (Node.block none) none
    let node := Node.conditional (Node.reference "Else") nested (some (Node.reference "Else"))
    let text := "  If\n    Var: Else\n    If\n      Var: If\n      Block\n  Else\n    Var: Else\n"
    OneLineNames node.names ∧ render (some node) 1 = .ok text ∧
      (rows text)[5]? = some ⟨2, "Else"⟩ ∧ (rows text)[2]? = some ⟨4, "If"⟩ ∧
      (rows text).countP (·.label = "Else") = 1 ∧
      (∃ opener, enclosing? (rows text) 5 = some opener ∧
        (rows text)[opener]? = some ⟨2, "If"⟩) ∧
      ¬ ∃ position, ∃ row ∈ (rows text)[position]?, row.label = "Else" ∧
        enclosing? (rows text) position = some 2 := by
  intro nested node text
  have hnames : OneLineNames node.names := by decide
  have hrender : render (some node) 1 = .ok text :=
    (render_eq_ok_iff _ _ _).mpr ⟨by decide, by decide⟩
  obtain ⟨hcount, hopened, -, hnodes⟩ := alternatives_belong_to_conditionals hnames hrender
  obtain ⟨-, hnested⟩ := hnodes ["then"]
    [.within (.conditionalThen (.reference "Else") (some (.reference "Else"))) none] nested rfl
  have hrows : rows text = node.outline.map (Line.row 1) := rows_of_render hnames hrender
  have helse : (rows text)[5]? = some ⟨2, "Else"⟩ := by
    rw [hrows]
    decide
  have hinner : (rows text)[2]? = some ⟨4, "If"⟩ := by
    rw [hrows]
    decide
  refine ⟨hnames, hrender, helse, hinner, hcount, hopened 5 _ helse rfl, ?_⟩
  exact mt (hnested _ _ none rfl).mp (by decide)

end ProgramTree
