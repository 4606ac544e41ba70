import Mathlib.Data.List.Nodup
import ProgramTree.Proofs.Height
import ProgramTree.Proofs.Nesting
import ProgramTree.Proofs.Relinking

/-!
# Tearing down visits every entry once and does not nest along chains

One step leads from a node to each of its children and to what is linked after it. The entries
that are destroyed with a node are the node itself and those destroyed with the nodes one step
away, in some order. Different steps lead to different positions, so every position of the tree is
entered once.

Along a chain only the first destruction encloses others: it takes the entries after it off one by
one, and each of them is destroyed without a link. So a chain adds two to the nesting of what its
forms own, whatever its length, and the whole nests at most twice as deep as the tree has levels.
-/

namespace ProgramTree

/-! ## The nodes one step away -/

/-- The nodes one step away from a node, each with the step that leads to it. -/
def Node.successors (node : Node) : List (Step × Node) :=
  node.next?.toList.map (Step.next, ·) ++ node.head.owned

/-- A step leads to a node if the node fills a frame of that step. -/
theorem Node.mem_successors_iff {node inner : Node} {step : Step} :
    (step, inner) ∈ node.successors ↔ ∃ frame : Frame, frame.fill inner = node ∧
      frame.step = step := by
  rw [Node.successors, List.mem_append]
  constructor
  · intro h
    rcases h with h | h
    · obtain ⟨next, hnext, hpair⟩ := List.mem_map.mp h
      obtain ⟨rfl, rfl⟩ := Prod.mk.inj hpair
      have hwhole := node.cons_head_next?
      rw [Option.mem_toList.mp hnext] at hwhole
      exact ⟨.after node.head, hwhole, rfl⟩
    · obtain ⟨hole, hfill, hstep⟩ := Form.mem_owned_iff.mp h
      refine ⟨.within hole node.next?, ?_, hstep⟩
      rw [Frame.fill, hfill, Chain.cons_head_next?]
  · intro h
    obtain ⟨frame, rfl, rfl⟩ := h
    cases frame with
    | within hole rest =>
      apply Or.inr
      rw [Frame.fill, Chain.head_cons]
      exact Form.mem_owned_iff.mpr ⟨hole, rfl, rfl⟩
    | after head =>
      apply Or.inl
      exact List.mem_cons_self

/-- Different steps lead to the children of a form. -/
theorem Form.nodup_steps_owned (form : Form) : (form.owned.map Prod.fst).Nodup := by
  cases form with
  | declare name initializer => cases initializer <;> simp [Form.owned]
  | conditional condition thenBranch elseBranch => cases elseBranch <;> simp [Form.owned]
  | block body => cases body <;> simp [Form.owned]
  | _ => simp [Form.owned]

/-- No child is reached by the step that follows a link. -/
theorem Form.step_ne_next_of_mem_owned {form : Form} {branch : Step × Node}
    (h : branch ∈ form.owned) : branch.1 ≠ .next := by
  obtain ⟨hole, -, hstep⟩ := Form.mem_owned_iff.mp h
  rw [← hstep]
  exact hole.step_ne_next

/-- Different steps lead to the nodes one step away. -/
theorem Node.nodup_steps_successors (node : Node) : (node.successors.map Prod.fst).Nodup := by
  rw [Node.successors, List.map_append]
  cases node.next? with
  | none => exact node.head.nodup_steps_owned
  | some next =>
    refine List.nodup_cons.mpr ⟨fun h => ?_, node.head.nodup_steps_owned⟩
    obtain ⟨branch, hbranch, hstep⟩ := List.mem_map.mp h
    exact Form.step_ne_next_of_mem_owned hbranch hstep

/-- What is linked after a node is one step away. -/
theorem Node.mem_successors_of_next? {node next : Node} (h : node.next? = some next) :
    (.next, next) ∈ node.successors := by
  rw [Node.successors, h]
  exact List.mem_cons_self

/-- The children of the first entry are one step away. -/
theorem Node.mem_successors_of_mem_owned {node : Node} {branch : Step × Node}
    (h : branch ∈ node.head.owned) : branch ∈ node.successors :=
  List.mem_append_right _ h

/-- A node one step away is a part of the node. -/
theorem Node.sizeOf_lt_of_mem_successors {node : Node} {branch : Step × Node}
    (h : branch ∈ node.successors) : sizeOf branch.2 < sizeOf node := by
  obtain ⟨hhead, hnext⟩ := node.sizeOf_parts_lt
  rw [Node.successors, List.mem_append] at h
  rcases h with h | h
  · obtain ⟨next, hmem, rfl⟩ := List.mem_map.mp h
    rw [Option.mem_toList.mp hmem, Option.some.sizeOf_spec] at hnext
    change sizeOf next < sizeOf node
    omega
  · exact (Form.sizeOf_lt_of_mem_owned h).trans hhead

/-- Induction over trees: a property passes from the nodes one step away to the node. -/
theorem Node.induction_by_successors {motive : Node → Prop}
    (step : ∀ node : Node, (∀ branch ∈ node.successors, motive branch.2) → motive node)
    (node : Node) : motive node := by
  induction hsize : sizeOf node using Nat.strongRecOn generalizing node with
  | ind size ih =>
    apply step node
    intro branch hbranch
    have hsmaller := Node.sizeOf_lt_of_mem_successors hbranch
    exact ih (sizeOf branch.2) (by omega) branch.2 rfl

/-! ## Positions -/

/-- Following the steps of a position leads to a node. -/
def Node.HasPosition (node : Node) (position : Position) : Prop :=
  ∃ context inner, node.walk (position.map Step.name) = .ok (context, inner)

/-- A position leads through a node one step away. -/
theorem Node.hasPosition_cons_iff {node : Node} {step : Step} {position : Position} :
    node.HasPosition (step :: position) ↔
      ∃ inner, (step, inner) ∈ node.successors ∧ inner.HasPosition position := by
  constructor
  · intro h
    obtain ⟨context, inner, hwalk⟩ := h
    rw [List.map_cons, Node.walk, Node.walkFrom] at hwalk
    split at hwalk
    · cases hwalk
    · rename_i frame next hstep
      rw [Step.ofName?_name, Option.bind_some] at hstep
      have hnext : (step, next) ∈ node.successors := Node.mem_successors_iff.mpr
        ⟨frame, Node.fill_of_descend? hstep, Node.step_of_descend? hstep⟩
      obtain ⟨reached, hreached⟩ := Node.exists_walkFrom hwalk []
      exact ⟨next, hnext, reached, inner, hreached⟩
  · intro h
    obtain ⟨next, hnext, context, inner, hwalk⟩ := h
    obtain ⟨frame, rfl, rfl⟩ := Node.mem_successors_iff.mp hnext
    have hstep : (Step.ofName? frame.step.name).bind (Node.descend? (frame.fill next)) =
        some (frame, next) := by
      rw [Step.ofName?_name, Option.bind_some, frame.descend?_fill]
    obtain ⟨reached, hreached⟩ := Node.exists_walkFrom hwalk [frame]
    exact ⟨reached, inner, (Node.walkFrom_cons hstep [] _).trans hreached⟩

/-! ## Every position is entered once -/

/-- The positions at which destructions begin, in order. -/
def entered (trace : List TeardownEvent) : List Position :=
  trace.filterMap fun
    | .enter position _ => some position
    | _ => none

/-- However far destructions reach, they open where they begin. -/
theorem opened_marks (extent : Extent) (trace : List TeardownEvent) :
    opened (marks extent trace) = entered trace := by
  rw [opened, marks, List.filterMap_filterMap, entered]
  congr 1
  funext event
  cases extent <;> cases event <;> rfl

/-- Joined traces enter what both parts enter. -/
theorem entered_append (first second : List TeardownEvent) :
    entered (first ++ second) = entered first ++ entered second :=
  List.filterMap_append

/-- The children of a form are destroyed one after another. -/
theorem Form.teardown_eq_flatMap (base : Position) (form : Form) :
    Form.teardown base form =
      form.owned.flatMap fun branch => branch.2.teardown (base ++ [branch.1]) := by
  rw [Form.teardown, List.flatMap_subtype (fun _ _ => rfl), List.unattach_attach]

/-- Nothing is done to unlink nothing. -/
@[simp]
theorem Node.unlink_none (base : Position) : Node.unlink base none = [] := by
  rw [Node.unlink]

/-- An entry that was taken off is entered without a link, and only its children are destroyed
with it. -/
theorem Node.teardown_detached (base : Position) (node : Node) :
    Node.teardown base node.detached =
      [.enter base false] ++ [.unlinked base] ++ Form.teardown base node.head ++ [.exit base] := by
  rw [Node.teardown]
  simp [Chain.detached, Chain.next?, Chain.head]

/-- A node is entered before what is linked after it and before its children. -/
theorem Node.entered_teardown (base : Position) (node : Node) :
    entered (node.teardown base) =
      base :: (entered (Node.unlink (base ++ [.next]) node.next?) ++
        entered (Form.teardown base node.head)) := by
  rw [Node.teardown]
  simp only [entered_append]
  simp [entered]

/-- Unlinking a chain enters what destroying it as a node enters. -/
theorem Node.entered_unlink_perm (base : Position) (node : Node) :
    (entered (Node.unlink base (some node))).Perm (entered (node.teardown base)) := by
  have hdetached : entered (Node.teardown base node.detached) =
      base :: entered (Form.teardown base node.head) := by
    rw [Node.teardown_detached]
    simp only [entered_append]
    simp [entered]
  rw [Node.unlink, entered_append, hdetached, Node.entered_teardown, List.cons_append]
  exact List.perm_append_comm.cons base

/-- With a node are entered the node itself and what is entered with the nodes one step away. -/
theorem Node.entered_teardown_perm (base : Position) (node : Node) :
    (entered (node.teardown base)).Perm
      (base :: node.successors.flatMap fun branch =>
        entered (branch.2.teardown (base ++ [branch.1]))) := by
  have hchildren : entered (Form.teardown base node.head) =
      node.head.owned.flatMap fun branch => entered (branch.2.teardown (base ++ [branch.1])) := by
    rw [Form.teardown_eq_flatMap]
    exact List.filterMap_flatMap
  rw [Node.entered_teardown, Node.successors, List.flatMap_append, hchildren]
  apply List.Perm.cons
  apply List.Perm.append_right
  cases node.next? with
  | none =>
    rw [Node.unlink_none]
    exact List.Perm.refl []
  | some next =>
    have hnext := Node.entered_unlink_perm (base ++ [.next]) next
    simpa using hnext

/-- With a node are entered its positions, as seen from where the node stands. -/
theorem Node.mem_entered_teardown_iff {node : Node} {base position : Position} :
    position ∈ entered (node.teardown base) ↔
      ∃ path, position = base ++ path ∧ node.HasPosition path := by
  induction node using Node.induction_by_successors generalizing base with
  | step node ih =>
    rw [(node.entered_teardown_perm base).mem_iff, List.mem_cons, List.mem_flatMap]
    constructor
    · intro h
      rcases h with rfl | ⟨⟨step, inner⟩, hbranch, hmem⟩
      · exact ⟨[], (List.append_nil _).symm, [], node, rfl⟩
      · obtain ⟨path, rfl, hpath⟩ := (ih _ hbranch).mp hmem
        refine ⟨step :: path, ?_, Node.hasPosition_cons_iff.mpr ⟨inner, hbranch, hpath⟩⟩
        rw [List.append_assoc, List.singleton_append]
    · intro h
      obtain ⟨path, rfl, hpath⟩ := h
      cases path with
      | nil => exact Or.inl (List.append_nil base)
      | cons step path =>
        obtain ⟨inner, hbranch, hinner⟩ := Node.hasPosition_cons_iff.mp hpath
        refine Or.inr ⟨(step, inner), hbranch, (ih _ hbranch).mpr ⟨path, ?_, hinner⟩⟩
        rw [List.append_assoc, List.singleton_append]

/-- No position is entered twice. -/
theorem Node.nodup_entered_teardown (node : Node) (base : Position) :
    (entered (node.teardown base)).Nodup := by
  induction node using Node.induction_by_successors generalizing base with
  | step node ih =>
    rw [(node.entered_teardown_perm base).nodup_iff, List.nodup_cons, List.nodup_flatMap]
    refine ⟨?_, fun branch hbranch => ih branch hbranch _, ?_⟩
    · -- What is entered one step away lies below the node.
      intro h
      obtain ⟨branch, -, hmem⟩ := List.mem_flatMap.mp h
      obtain ⟨path, hbase, -⟩ := Node.mem_entered_teardown_iff.mp hmem
      simp at hbase
    · -- The positions that different steps lead to differ in that step.
      refine (List.pairwise_map.mp node.nodup_steps_successors).imp ?_
      intro first second hsteps position hfirst hsecond
      obtain ⟨path, rfl, -⟩ := Node.mem_entered_teardown_iff.mp hfirst
      obtain ⟨other, hother, -⟩ := Node.mem_entered_teardown_iff.mp hsecond
      rw [List.append_assoc, List.append_assoc] at hother
      exact hsteps (List.cons.inj (List.append_cancel_left hother)).1

/-! ## Entries that are taken off have no link -/

/-- Destroying a node enters the node as it is linked, then what is linked after it and then its
children. -/
theorem Node.enter_mem_teardown_iff {node : Node} {base position : Position} {linked : Bool} :
    .enter position linked ∈ node.teardown base ↔
      (position = base ∧ linked = node.next?.isSome) ∨
        .enter position linked ∈ Node.unlink (base ++ [.next]) node.next? ∨
        .enter position linked ∈ Form.teardown base node.head := by
  rw [Node.teardown]
  simp

/-- Unlinking a chain enters its first entry without a link, then the children of that entry and
then the rest of the chain. -/
theorem Node.enter_mem_unlink_iff {node : Node} {base position : Position} {linked : Bool} :
    .enter position linked ∈ Node.unlink base (some node) ↔
      (position = base ∧ linked = false) ∨
        .enter position linked ∈ Form.teardown base node.head ∨
        .enter position linked ∈ Node.unlink (base ++ [.next]) node.next? := by
  rw [Node.unlink, Node.teardown_detached]
  simp

/-- If a node is entered with a link at a position that a link leads to, then destruction starts
from it, and unlinking enters no such node. -/
theorem Node.eq_base_of_enter_linked (node : Node) (base position : Position) :
    (.enter (position ++ [.next]) true ∈ node.teardown base → position ++ [.next] = base) ∧
      .enter (position ++ [.next]) true ∉ Node.unlink base (some node) := by
  induction node using Node.induction_by_successors generalizing base with
  | step node ih =>
    have hchildren (base : Position) :
        .enter (position ++ [.next]) true ∉ Form.teardown base node.head := by
      intro h
      rw [Form.teardown_eq_flatMap] at h
      obtain ⟨branch, hbranch, hmem⟩ := List.mem_flatMap.mp h
      have hbase := (ih branch (Node.mem_successors_of_mem_owned hbranch) _).1 hmem
      have hstep := (List.append_inj' hbase rfl).2
      exact Form.step_ne_next_of_mem_owned hbranch (List.cons.inj hstep).1.symm
    have hlinked (base : Position) :
        .enter (position ++ [.next]) true ∉ Node.unlink base node.next? := by
      cases hnext : node.next? with
      | none => simp
      | some next => exact (ih _ (Node.mem_successors_of_next? hnext) base).2
    constructor
    · intro h
      rcases Node.enter_mem_teardown_iff.mp h with ⟨hbase, -⟩ | h | h
      · exact hbase
      · exact absurd h (hlinked _)
      · exact absurd h (hchildren _)
    · intro h
      rcases Node.enter_mem_unlink_iff.mp h with ⟨-, hlinked⟩ | h | h
      · cases hlinked
      · exact absurd h (hchildren _)
      · exact absurd h (hlinked _)

/-! ## How deep destructions nest -/

/-- The marks of joined traces are those of both parts. -/
theorem marks_append (extent : Extent) (first second : List TeardownEvent) :
    marks extent (first ++ second) = marks extent first ++ marks extent second :=
  List.filterMap_append

/-- However far destructions reach, a node encloses what is linked after it, and perhaps its
children. -/
theorem Node.nestedWithin_teardown_of_parts {extent : Extent} {depth : Nat} {node : Node}
    {base : Position}
    (hlinked : NestedWithin depth (marks extent (Node.unlink (base ++ [.next]) node.next?)))
    (hchildren : NestedWithin depth (marks extent (Form.teardown base node.head))) :
    NestedWithin (depth + 1) (marks extent (node.teardown base)) := by
  rw [Node.teardown]
  simp only [marks_append]
  cases extent with
  | unlinking =>
    have hnested := NestedWithin.pair base hlinked (hchildren.mono (Nat.le_succ depth))
    simpa [marks, TeardownEvent.mark?, List.filterMap_cons] using hnested
  | whole =>
    have hnested := NestedWithin.pair base (hlinked.append hchildren) (.nil (depth + 1))
    simpa [marks, TeardownEvent.mark?, List.filterMap_cons] using hnested

/-- Destructions nest twice as deep as the tree has levels, and one less along the entries that
are taken off one at a time. -/
theorem Node.nestedWithin_teardown_and_unlink (extent : Extent) (node : Node) (base : Position) :
    NestedWithin (2 * node.height + 2) (marks extent (node.teardown base)) ∧
      NestedWithin (2 * node.height + 1) (marks extent (Node.unlink base (some node))) := by
  induction node using Node.induction_by_successors generalizing base with
  | step node ih =>
    have hchildren (base : Position) :
        NestedWithin (2 * node.height) (marks extent (Form.teardown base node.head)) := by
      rw [Form.teardown_eq_flatMap, marks, List.filterMap_flatMap]
      apply nestedWithin_flatMap
      intro branch hbranch
      have hlower := Form.height_lt_of_mem_owned hbranch
      have hhead := node.height_head_le
      exact (ih branch (Node.mem_successors_of_mem_owned hbranch) _).1.mono (by omega)
    have hlinked (base : Position) :
        NestedWithin (2 * node.height + 1) (marks extent (Node.unlink base node.next?)) := by
      cases hnext : node.next? with
      | none =>
        rw [Node.unlink_none]
        exact .nil _
      | some next =>
        have hheight := Node.height_le_of_next? hnext
        have hrest : NestedWithin (2 * Node.height next + 1)
            (marks extent (Node.unlink base (some next))) :=
          (ih _ (Node.mem_successors_of_next? hnext) base).2
        exact hrest.mono (by omega)
    constructor
    · exact Node.nestedWithin_teardown_of_parts (hlinked _) ((hchildren _).mono (Nat.le_succ _))
    · rw [Node.unlink, marks_append]
      refine NestedWithin.append ?_ (hlinked _)
      apply Node.nestedWithin_teardown_of_parts
      · change NestedWithin _ (marks extent (Node.unlink _ none))
        rw [Node.unlink_none]
        exact .nil _
      · exact hchildren base

/-! ## The whole trace -/

/-- Destroying a tree enters and leaves every entry once, and nests no deeper along chains.

The destruction of an entry is taken to reach until all that was linked after it is destroyed, or
until its children are destroyed, too. In both ways destructions are properly nested, each
position of the tree opens once and closes once and nothing else does, and at no time more of them
are under way than twice the levels of the tree. An entry behind a link has no link when its own
destruction begins. The levels are one more than the child steps to the deepest node, so that
entries appended anywhere in the tree, however many, do not raise the bound unless they are higher
than the chain they are appended to. -/
theorem Node.teardown_visits_once_and_stays_shallow (node : Node) :
    (∀ extent : Extent,
      NestedWithin (2 * (node.height + 1)) (marks extent (node.teardown [])) ∧
      (opened (marks extent (node.teardown []))).Nodup ∧
      (closed (marks extent (node.teardown []))).Nodup ∧
      (∀ position : Position,
        (position ∈ opened (marks extent (node.teardown [])) ↔
          ∃ context inner, node.walk (position.map Step.name) = .ok (context, inner)) ∧
        (position ∈ closed (marks extent (node.teardown [])) ↔
          ∃ context inner, node.walk (position.map Step.name) = .ok (context, inner))) ∧
      ∀ before : List TeardownEvent, before <+: node.teardown [] →
        (opened (marks extent before)).length ≤
          (closed (marks extent before)).length + 2 * (node.height + 1)) ∧
    (∀ (position : Position) (linked : Bool),
      .enter (position ++ [.next]) linked ∈ node.teardown [] → linked = false) ∧
    IsGreatest {depth | ∃ path context inner, node.walk path = .ok (context, inner) ∧
      depth = path.countP (· ≠ "next")} node.height ∧
    ∀ (context : Context) (first second : Node), second.height ≤ first.height →
      Node.height (context.fill (first.append second)) = Node.height (context.fill first) := by
  refine ⟨?_, ?_, node.isGreatest_height, ?_⟩
  · intro extent
    have hnested : NestedWithin (2 * (node.height + 1)) (marks extent (node.teardown [])) :=
      (node.nestedWithin_teardown_and_unlink extent []).1
    have hperm := hnested.closed_perm_opened
    have hnodup : (opened (marks extent (node.teardown []))).Nodup := by
      rw [opened_marks]
      exact node.nodup_entered_teardown []
    have hopened (position : Position) :
        position ∈ opened (marks extent (node.teardown [])) ↔ node.HasPosition position := by
      rw [opened_marks, Node.mem_entered_teardown_iff]
      simp
    refine ⟨hnested, hnodup, hperm.nodup_iff.mpr hnodup, ?_, ?_⟩
    · intro position
      exact ⟨hopened position, hperm.mem_iff.trans (hopened position)⟩
    · intro before hbefore
      exact hnested.length_opened_le (hbefore.filterMap _)
  · intro position linked h
    cases linked with
    | false => rfl
    | true =>
      have hbase := (node.eq_base_of_enter_linked [] position).1 h
      simp at hbase
  · intro context first second hheight
    apply context.height_fill_congr
    rw [Node.height_append, Nat.max_eq_left hheight]

/-- The second entry is taken off and destroyed before the children of the first. -/
example :
    Node.teardown [] ((Node.unary .neg (Node.integer 1)).append (Node.integer 2)) =
      [.enter [] true, .enter [.next] false, .unlinked [.next], .exit [.next], .unlinked [],
        .enter [.operand] false, .unlinked [.operand], .exit [.operand], .exit []] := by
  cbv

end ProgramTree
