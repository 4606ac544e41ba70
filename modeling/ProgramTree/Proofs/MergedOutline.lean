import ProgramTree.Outline.Merge
import ProgramTree.Proofs.Printing
import ProgramTree.Proofs.UniqueReading

/-!
# Merged trees and their outlines determine each other

The outline of a tree depends on its merged form alone, and it determines the merged form. A label
shows the kind of its form and what the form carries, and no label is that of the line before an
alternative. The lines of the children are the run of deeper lines after a label, which ends at
the next line of the same depth; that line shows whether an alternative or another form follows.
So the lines of a form are told from what follows them, by induction over the merged form.
-/

namespace ProgramTree

/-! ## Labels -/

/-- The word with which the labels of a kind of form start. -/
def Tag.keyword : Tag → String
  | .integer => "Int"
  | .reference => "Var"
  | .binary => "Op"
  | .unary => "Unary Op"
  | .assign => "Assign"
  | .declare => "VarDecl"
  | .conditional => "If"
  | .loop => "While"
  | .block => "Block"

/-- Kinds of form have different keywords. -/
theorem Tag.keyword_injective {first second : Tag} (h : first.keyword = second.keyword) :
    first = second := by
  cases first <;> cases second <;> simp [Tag.keyword] at h ⊢

/-- No keyword holds a colon. -/
theorem Tag.ne_colon_of_mem_keyword (tag : Tag) :
    ∀ character ∈ tag.keyword.toList, character ≠ ':' := by
  cases tag <;> simp [Tag.keyword]

/-- The label of a form of some kind, which may show a text. -/
def labelOf (tag : Tag) : Option String → String
  | none => tag.keyword
  | some shown => tag.keyword ++ (": " ++ shown)

/-- What stands after the keyword of a label. -/
def labelTail : Option String → List Char
  | none => []
  | some shown => ':' :: ' ' :: shown.toList

/-- The tail of a label determines the text it shows. -/
theorem labelTail_injective {first second : Option String}
    (h : labelTail first = labelTail second) : first = second := by
  cases first with
  | none =>
    cases second with
    | none => rfl
    | some shown => cases h
  | some shown =>
    cases second with
    | none => cases h
    | some shown' =>
      obtain ⟨-, hshown⟩ := List.cons.inj (List.cons.inj h).2
      rw [String.toList_inj.mp hshown]

/-- A label is its keyword and its tail. -/
theorem toList_labelOf (tag : Tag) (shown : Option String) :
    (labelOf tag shown).toList = tag.keyword.toList ++ labelTail shown := by
  cases shown with
  | none => simp [labelOf, labelTail]
  | some shown => simp [labelOf, labelTail]

/-- The tail of a label starts with a colon, if there is one. -/
theorem eq_colon_of_head?_labelTail (shown : Option String) :
    ∀ character ∈ (labelTail shown).head?, ¬ character ≠ ':' := by
  cases shown <;> simp [labelTail]

/-- A label shows its kind and its text. -/
theorem labelOf_inj {first second : Tag} {shown shown' : Option String}
    (h : labelOf first shown = labelOf second shown') : first = second ∧ shown = shown' := by
  have hcharacters := congrArg String.toList h
  rw [toList_labelOf, toList_labelOf] at hcharacters
  obtain ⟨hkeywords, htails⟩ := run_append_inj (· ≠ ':') first.ne_colon_of_mem_keyword
    second.ne_colon_of_mem_keyword (eq_colon_of_head?_labelTail shown)
    (eq_colon_of_head?_labelTail shown') hcharacters
  exact ⟨Tag.keyword_injective (String.toList_inj.mp hkeywords), labelTail_injective htails⟩

/-- No form has the label of the line before an alternative. -/
theorem labelOf_ne_elseLabel (tag : Tag) (shown : Option String) :
    labelOf tag shown ≠ elseLabel := by
  intro h
  have hcharacters : tag.keyword.toList ++ labelTail shown = elseLabel.toList ++ [] := by
    rw [← toList_labelOf, h, List.append_nil]
  obtain ⟨hkeyword, -⟩ := run_append_inj (· ≠ ':') tag.ne_colon_of_mem_keyword
    (by simp [elseLabel]) (eq_colon_of_head?_labelTail shown) (by simp) hcharacters
  cases tag <;> simp [Tag.keyword, elseLabel] at hkeyword

/-- The kind of a merged form. -/
def Merged.tag : Merged → Tag
  | .integer _ => .integer
  | .reference _ => .reference
  | .binary _ _ => .binary
  | .unary _ _ => .unary
  | .assign _ _ => .assign
  | .declare _ _ => .declare
  | .conditional _ _ => .conditional
  | .loop _ => .loop
  | .block _ => .block

/-- The text that the label of a merged form shows. -/
def Merged.shown : Merged → Option String
  | .integer value => some value.toInt.repr
  | .reference name => some name
  | .binary operator _ => some operator.code.toInt.repr
  | .unary operator _ => some operator.code.toInt.repr
  | .assign name _ => some name
  | .declare name _ => some name
  | .conditional _ _ => none
  | .loop _ => none
  | .block _ => none

/-- The merged children of a form, apart from its alternative. -/
def Merged.children : Merged → List Merged
  | .integer _ => []
  | .reference _ => []
  | .binary _ operands => operands
  | .unary _ operand => operand
  | .assign _ value => value
  | .declare _ initializer => initializer
  | .conditional conditionThenBranch _ => conditionThenBranch
  | .loop conditionBody => conditionBody
  | .block body => body

/-- The merged alternative of a conditional; no other form has one. -/
def Merged.alternative : Merged → Option (List Merged)
  | .conditional _ elseBranch => elseBranch
  | _ => none

/-- The label of a form is that of its merged form. -/
theorem Form.label_eq_labelOf (form : Form) :
    form.label = labelOf form.merge.tag form.merge.shown := by
  rw [← String.toList_inj, toList_labelOf]
  cases form <;>
    simp [Form.label, Form.merge, Merged.tag, Merged.shown, labelTail, Tag.keyword]

/-- Operators whose codes are shown alike are one operator. -/
theorem Operator.eq_of_repr_code {first second : Operator}
    (h : first.code.toInt.repr = second.code.toInt.repr) : first = second :=
  Operator.code_injective (Int32.toInt_inj.mp (Int.repr_injective h))

/-- A merged form is determined by its kind, the text it shows and its children. -/
theorem Merged.eq_of_parts {first second : Merged} (htag : first.tag = second.tag)
    (hshown : first.shown = second.shown) (hchildren : first.children = second.children)
    (halternative : first.alternative = second.alternative) : first = second := by
  cases first with
  | integer value =>
    cases second with
    | integer value' =>
      rw [Int64.toInt_inj.mp (Int.repr_injective (Option.some.inj hshown))]
    | _ => cases htag
  | binary operator operands =>
    cases second with
    | binary operator' operands' =>
      rw [Operator.eq_of_repr_code (Option.some.inj hshown)]
      exact congrArg _ hchildren
    | _ => cases htag
  | unary operator operand =>
    cases second with
    | unary operator' operand' =>
      rw [Operator.eq_of_repr_code (Option.some.inj hshown)]
      exact congrArg _ hchildren
    | _ => cases htag
  | _ =>
    cases second <;>
      simp_all [Merged.tag, Merged.shown, Merged.children, Merged.alternative]

/-! ## Outlines of merged forms -/

/-- The label of a merged form. -/
def Merged.label (form : Merged) : String :=
  labelOf form.tag form.shown

mutual

/-- The outline of a merged form and its children. -/
def Merged.outline : Merged → List Line
  | .integer value => [⟨0, (Merged.integer value).label⟩]
  | .reference name => [⟨0, (Merged.reference name).label⟩]
  | .binary operator operands =>
    ⟨0, (Merged.binary operator operands).label⟩ :: deepen (Merged.outlineAll operands)
  | .unary operator operand =>
    ⟨0, (Merged.unary operator operand).label⟩ :: deepen (Merged.outlineAll operand)
  | .assign name value =>
    ⟨0, (Merged.assign name value).label⟩ :: deepen (Merged.outlineAll value)
  | .declare name initializer =>
    ⟨0, (Merged.declare name initializer).label⟩ :: deepen (Merged.outlineAll initializer)
  | .conditional conditionThenBranch elseBranch =>
    ⟨0, (Merged.conditional conditionThenBranch elseBranch).label⟩ ::
      (deepen (Merged.outlineAll conditionThenBranch) ++ Merged.outlineAlternative elseBranch)
  | .loop conditionBody =>
    ⟨0, (Merged.loop conditionBody).label⟩ :: deepen (Merged.outlineAll conditionBody)
  | .block body => ⟨0, (Merged.block body).label⟩ :: deepen (Merged.outlineAll body)

/-- The line before an alternative and the outline of the alternative, if there is one. -/
def Merged.outlineAlternative : Option (List Merged) → List Line
  | none => []
  | some elseBranch => ⟨0, elseLabel⟩ :: deepen (Merged.outlineAll elseBranch)

/-- The outlines of merged forms in order. -/
def Merged.outlineAll : List Merged → List Line
  | [] => []
  | form :: forms => Merged.outline form ++ Merged.outlineAll forms

end

/-- The outline of a merged form is its label, its deepened children and its alternative. -/
theorem Merged.outline_eq (form : Merged) :
    form.outline = ⟨0, form.label⟩ :: (deepen (Merged.outlineAll form.children) ++
      Merged.outlineAlternative form.alternative) := by
  cases form <;>
    simp [Merged.outline, Merged.children, Merged.alternative, Merged.outlineAll,
      Merged.outlineAlternative, deepen]

/-- Deepening joined outlines deepens each of them. -/
theorem deepen_append (first second : List Line) :
    deepen (first ++ second) = deepen first ++ deepen second :=
  List.map_append

/-- The outlines of joined lists are joined. -/
theorem Merged.outlineAll_append (first second : List Merged) :
    Merged.outlineAll (first ++ second) =
      Merged.outlineAll first ++ Merged.outlineAll second := by
  induction first with
  | nil => rw [Merged.outlineAll, List.nil_append, List.nil_append]
  | cons form first ih =>
    rw [List.cons_append, Merged.outlineAll, Merged.outlineAll, ih, List.append_assoc]

mutual

/-- A form has the outline of its merged form. -/
theorem Form.outline_eq_merge : ∀ form : Form, form.outline = form.merge.outline
  | .integer value => by
    rw [Form.outline, Form.label_eq_labelOf, Form.merge, Merged.outline, Merged.label]
  | .reference name => by
    rw [Form.outline, Form.label_eq_labelOf, Form.merge, Merged.outline, Merged.label]
  | .binary operator left right => by
    rw [Form.outline, Form.label_eq_labelOf, Form.merge, Merged.outline, Merged.label,
      Merged.outlineAll_append, Node.outline_eq_merge left, Node.outline_eq_merge right,
      deepen_append]
  | .unary operator operand => by
    rw [Form.outline, Form.label_eq_labelOf, Form.merge, Merged.outline, Merged.label,
      Node.outline_eq_merge operand]
  | .assign name value => by
    rw [Form.outline, Form.label_eq_labelOf, Form.merge, Merged.outline, Merged.label,
      Node.outline_eq_merge value]
  | .declare name initializer => by
    rw [Form.outline, Form.label_eq_labelOf, Form.merge, Merged.outline, Merged.label,
      Node.outlineOptional_eq_merge initializer]
  | .conditional condition thenBranch elseBranch => by
    rw [Form.outline, Form.label_eq_labelOf, Form.merge, Merged.outline, Merged.label,
      Merged.outlineAll_append, Node.outline_eq_merge condition, Node.outline_eq_merge thenBranch,
      List.append_assoc _ (elseLines elseBranch), Node.elseLines_append_eq_merge elseBranch,
      deepen_append]
  | .loop condition body => by
    rw [Form.outline, Form.label_eq_labelOf, Form.merge, Merged.outline, Merged.label,
      Merged.outlineAll_append, Node.outline_eq_merge condition, Node.outline_eq_merge body,
      deepen_append]
  | .block body => by
    rw [Form.outline, Form.label_eq_labelOf, Form.merge, Merged.outline, Merged.label,
      Node.outlineOptional_eq_merge body]

/-- An optional chain has the outline of its merged forms, none if it is absent. -/
theorem Node.outlineOptional_eq_merge : ∀ node : Option Node,
    Node.outlineOptional node = Merged.outlineAll ((Node.mergeOptional node).getD [])
  | none => by rw [Node.outlineOptional, Node.mergeOptional, Option.getD_none, Merged.outlineAll]
  | some node => by
    rw [Node.outlineOptional, Node.mergeOptional, Option.getD_some, Node.outline_eq_merge node]

/-- An alternative has the lines of its merged forms. -/
theorem Node.elseLines_append_eq_merge : ∀ node : Option Node,
    elseLines node ++ deepen (Node.outlineOptional node) =
      Merged.outlineAlternative (Node.mergeOptional node)
  | none => by
    rw [Node.outlineOptional, Node.mergeOptional, Merged.outlineAlternative]
    rfl
  | some node => by
    rw [Node.outlineOptional, Node.mergeOptional, Merged.outlineAlternative,
      Node.outline_eq_merge node]
    rfl

/-- A chain has the outline of its merged forms. -/
theorem Node.outline_eq_merge : ∀ node : Node, node.outline = Merged.outlineAll node.merge
  | .last head => by
    rw [Node.outline, Node.merge, Merged.outlineAll, Merged.outlineAll, List.append_nil,
      Form.outline_eq_merge head]
  | .link head next => by
    rw [Node.outline, Node.merge, Merged.outlineAll, Form.outline_eq_merge head,
      Node.outline_eq_merge next]

end

/-! ## Reading an outline -/

/-- Outlines that are equal once deepened are equal. -/
theorem deepen_injective {first second : List Line} (h : deepen first = deepen second) :
    first = second := by
  rw [deepen_eq_deepenBy, deepen_eq_deepenBy] at h
  exact deepenBy_injective h

/-- The lines of a deepened outline are not at the base. -/
theorem depth_ne_zero_of_mem_deepen {outline : List Line} :
    ∀ line ∈ deepen outline, line.depth ≠ 0 := by
  intro line hline
  obtain ⟨original, -, rfl⟩ := List.mem_map.mp hline
  exact Nat.succ_ne_zero original.depth

/-- The lines of children are told from what follows them at the base. -/
theorem deepen_append_inj {first second rest other : List Line}
    (hrest : ∀ line ∈ rest.head?, line.depth = 0) (hother : ∀ line ∈ other.head?, line.depth = 0)
    (h : deepen first ++ rest = deepen second ++ other) : first = second ∧ rest = other := by
  obtain ⟨hdeepened, hrests⟩ := run_append_inj (fun line : Line => line.depth ≠ 0)
    depth_ne_zero_of_mem_deepen depth_ne_zero_of_mem_deepen
    (fun line hline => not_not.mpr (hrest line hline))
    (fun line hline => not_not.mpr (hother line hline)) h
  exact ⟨deepen_injective hdeepened, hrests⟩

/-- What can follow the lines of a form: nothing, or a line at the base that starts a form. -/
def StartsForm (rest : List Line) : Prop :=
  ∀ line ∈ rest.head?, line.depth = 0 ∧ line.label ≠ elseLabel

/-- The outline of merged forms starts with the label of a form. -/
theorem startsForm_outlineAll (forms : List Merged) : StartsForm (Merged.outlineAll forms) := by
  cases forms with
  | nil => simp [StartsForm, Merged.outlineAll]
  | cons form forms =>
    intro line hline
    rw [Merged.outlineAll, Merged.outline_eq, List.cons_append, List.head?_cons,
      Option.mem_some_iff] at hline
    subst hline
    exact ⟨rfl, labelOf_ne_elseLabel form.tag form.shown⟩

/-- Whether the outline of merged forms is that of no other forms. -/
def OutlineDetermines (forms : List Merged) : Prop :=
  ∀ others, Merged.outlineAll forms = Merged.outlineAll others → forms = others

/-- The lines of an alternative, and of none, start at the base. -/
theorem depth_eq_zero_of_head?_outlineAlternative {alternative : Option (List Merged)}
    {rest : List Line} (hrest : StartsForm rest) :
    ∀ line ∈ (Merged.outlineAlternative alternative ++ rest).head?, line.depth = 0 := by
  cases alternative with
  | none =>
    intro line hline
    rw [Merged.outlineAlternative, List.nil_append] at hline
    exact (hrest line hline).1
  | some forms =>
    intro line hline
    rw [Merged.outlineAlternative, List.cons_append, List.head?_cons,
      Option.mem_some_iff] at hline
    rw [← hline]

/-- An alternative is told from its absence and from what follows it. -/
theorem outlineAlternative_append_inj {first second : Option (List Merged)}
    {rest other : List Line} (hfirst : ∀ forms ∈ first, OutlineDetermines forms)
    (hrest : StartsForm rest) (hother : StartsForm other)
    (h : Merged.outlineAlternative first ++ rest = Merged.outlineAlternative second ++ other) :
    first = second ∧ rest = other := by
  cases first with
  | none =>
    cases second with
    | none => exact ⟨rfl, by simpa only [Merged.outlineAlternative, List.nil_append] using h⟩
    | some forms =>
      rw [Merged.outlineAlternative, Merged.outlineAlternative, List.nil_append] at h
      exact absurd rfl (hrest ⟨0, elseLabel⟩ (by simp [h])).2
  | some forms =>
    cases second with
    | none =>
      rw [Merged.outlineAlternative, Merged.outlineAlternative, List.nil_append] at h
      exact absurd rfl (hother ⟨0, elseLabel⟩ (by simp [← h])).2
    | some others =>
      rw [Merged.outlineAlternative, Merged.outlineAlternative] at h
      obtain ⟨houtlines, hrests⟩ := deepen_append_inj (fun line hline => (hrest line hline).1)
        (fun line hline => (hother line hline).1) (List.cons.inj h).2
      exact ⟨congrArg some (hfirst forms rfl others houtlines), hrests⟩

/-- The lines of a form are told from what follows them if those of its children are. -/
theorem Merged.outline_append_inj_of_children {first second : Merged} {rest other : List Line}
    (hchildren : OutlineDetermines first.children)
    (halternative : ∀ forms ∈ first.alternative, OutlineDetermines forms)
    (hrest : StartsForm rest) (hother : StartsForm other)
    (h : first.outline ++ rest = second.outline ++ other) : first = second ∧ rest = other := by
  rw [Merged.outline_eq, Merged.outline_eq, List.cons_append, List.cons_append,
    List.append_assoc, List.append_assoc] at h
  obtain ⟨hline, hbelow⟩ := List.cons.inj h
  obtain ⟨htag, hshown⟩ := labelOf_inj (Line.mk.inj hline).2
  -- The children are the run of deeper lines; what follows them is back at the base.
  obtain ⟨houtlines, hafter⟩ := deepen_append_inj
    (depth_eq_zero_of_head?_outlineAlternative hrest)
    (depth_eq_zero_of_head?_outlineAlternative hother) hbelow
  obtain ⟨halternatives, hrests⟩ :=
    outlineAlternative_append_inj halternative hrest hother hafter
  exact ⟨Merged.eq_of_parts htag hshown (hchildren _ houtlines) halternatives, hrests⟩

/-- The first of several forms is told from the others if its children are determined. -/
theorem outlineDetermines_cons {form : Merged} {forms : List Merged}
    (hchildren : OutlineDetermines form.children)
    (halternative : ∀ forms ∈ form.alternative, OutlineDetermines forms)
    (hforms : OutlineDetermines forms) : OutlineDetermines (form :: forms) := by
  intro others h
  cases others with
  | nil =>
    rw [Merged.outlineAll, Merged.outlineAll, Merged.outline_eq] at h
    cases h
  | cons other others =>
    rw [Merged.outlineAll, Merged.outlineAll] at h
    obtain ⟨rfl, hrests⟩ := Merged.outline_append_inj_of_children hchildren halternative
      (startsForm_outlineAll forms) (startsForm_outlineAll others) h
    rw [hforms others hrests]

/-- The empty list of forms is the only one without lines. -/
theorem outlineDetermines_nil : OutlineDetermines [] := by
  intro others h
  cases others with
  | nil => rfl
  | cons other others =>
    rw [Merged.outlineAll, Merged.outlineAll, Merged.outline_eq] at h
    cases h

mutual

/-- The outline of the children of a form determines them. -/
theorem Merged.outlineDetermines_children : ∀ form : Merged, OutlineDetermines form.children
  | .integer _ => outlineDetermines_nil
  | .reference _ => outlineDetermines_nil
  | .binary _ operands => Merged.outlineDetermines operands
  | .unary _ operand => Merged.outlineDetermines operand
  | .assign _ value => Merged.outlineDetermines value
  | .declare _ initializer => Merged.outlineDetermines initializer
  | .conditional conditionThenBranch _ => Merged.outlineDetermines conditionThenBranch
  | .loop conditionBody => Merged.outlineDetermines conditionBody
  | .block body => Merged.outlineDetermines body

/-- The outline of the alternative of a form determines it. -/
theorem Merged.outlineDetermines_alternative :
    ∀ form : Merged, ∀ forms ∈ form.alternative, OutlineDetermines forms
  | .conditional _ elseBranch => Merged.outlineDetermines_optional elseBranch
  | .integer _ => nofun
  | .reference _ => nofun
  | .binary _ _ => nofun
  | .unary _ _ => nofun
  | .assign _ _ => nofun
  | .declare _ _ => nofun
  | .loop _ => nofun
  | .block _ => nofun

/-- The outline of optional merged forms determines them. -/
theorem Merged.outlineDetermines_optional :
    ∀ optional : Option (List Merged), ∀ forms ∈ optional, OutlineDetermines forms
  | none => nofun
  | some forms => by
    intro others hothers
    rw [← Option.some.inj hothers]
    exact Merged.outlineDetermines forms

/-- The outline of merged forms determines them. -/
theorem Merged.outlineDetermines : ∀ forms : List Merged, OutlineDetermines forms
  | [] => outlineDetermines_nil
  | form :: forms =>
    outlineDetermines_cons (Merged.outlineDetermines_children form)
      (Merged.outlineDetermines_alternative form) (Merged.outlineDetermines forms)

end

/-- Two trees have the same outline when they are the same once merged. -/
theorem Node.outline_eq_iff_merge_eq (first second : Node) :
    first.outline = second.outline ↔ first.merge = second.merge := by
  rw [Node.outline_eq_merge, Node.outline_eq_merge]
  exact ⟨Merged.outlineDetermines first.merge second.merge, fun h => by rw [h]⟩

end ProgramTree
