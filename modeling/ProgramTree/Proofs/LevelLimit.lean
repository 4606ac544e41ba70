import Mathlib.Algebra.Group.Nat.Defs
import ProgramTree.Outline.Delivery
import ProgramTree.Proofs.Height

/-!
# Levels that cannot be indented

Printing fails exactly when the deepest line of a tree is too deep to be indented, and the level
of a child is never computed from a level that is itself too deep. The second part is about the
way to the result, so it is stated of a printer that notes every level from which the level of a
child is computed. That printer is in step with the plain one: it comes to the same outcome, and it
notes only levels at which the line of a form has just been printed.

A tree that cannot be printed is never offered to a sink or emitted, not even in part.
-/

namespace ProgramTree

variable {ε σ α : Type}

/-! ## Printing with a record of the levels -/

/-- A printer that also notes every level from which the level of a child is computed. The notes
outlast a line that cannot be added. -/
def Printer.recording (printer : Printer ε σ) : Printer (ε × List UInt64) (σ × List UInt64) where
  line := fun (out, parents) level label =>
    ((printer.line out level label).map (·, parents)).mapError (·, parents)
  descend := fun (out, parents) level => (printer.descend out level, parents ++ [level])

/-- What a computation comes to, with the levels from which it computed the level of a child. -/
structure Recorded (α : Type) where
  outcome : Except RenderError α
  parents : List UInt64

/-- The outcome of a walk and its notes, whether it succeeds or fails. -/
def Recorded.ofWalk : Except (RenderError × List UInt64) (α × List UInt64) → Recorded α
  | .ok (out, parents) => ⟨.ok out, parents⟩
  | .error (error, parents) => ⟨.error error, parents⟩

/-- Print an optional node at a level, noting the levels from which child levels are computed. -/
def renderRecorded (node : Option Node) (level : UInt64) : Recorded String :=
  .ofWalk (textPrinter.recording.pushOptional ("", []) level node)

/-- The levels are those of the parents, once for every child that is visited or looked for. -/
example :
    (renderRecorded (some (.conditional (.unary .not (.reference "a")) (.block none)
      (some (.declare "b" none)))) 7).parents = [7, 8, 7, 8, 7, 8] := by
  rfl

/-! ## The record does not change the outcome and keeps to the limit -/

/-- A result with notes of levels that can all be indented, against the result alone. -/
def NotedWithinLimit (result : α) (noted : α × List UInt64) : Prop :=
  noted.1 = result ∧ ∀ level ∈ noted.2, level.toNat < levelLimit

/-- A line is added only at a level that can be indented. -/
theorem toNat_lt_of_pushLine {out label text : String} {level : UInt64}
    (h : pushLine out level label = .ok text) : level.toNat < levelLimit := by
  rw [pushLine_eq, printed] at h
  split at h
  · exact (linesFit_cons_base.mp ‹_›).1
  · cases h

/-- The recording printer is in step with the plain one, and its notes keep to the limit. -/
theorem inStep_recording :
    textPrinter.InStep textPrinter.recording NotedWithinLimit NotedWithinLimit
      (·.toNat < levelLimit) where
  line := by
    intro out noted hnoted level label
    obtain ⟨out', parents⟩ := noted
    obtain ⟨rfl, hparents⟩ := hnoted
    change EndAlike _ _ (pushLine out' level label)
      (((pushLine out' level label).map (·, parents)).mapError (·, parents))
    cases hline : pushLine out' level label with
    | error error => exact .error ⟨rfl, hparents⟩
    | ok text => exact .ok ⟨⟨rfl, hparents⟩, toNat_lt_of_pushLine hline⟩
  descend := by
    intro out noted hnoted level hlevel
    obtain ⟨hout, hparents⟩ := hnoted
    refine ⟨hout, List.forall_mem_append.mpr ⟨hparents, ?_⟩⟩
    exact List.forall_mem_singleton.mpr hlevel

/-- A walk that ends like a plain one has its outcome and notes of levels within the limit. -/
theorem Recorded.ofWalk_of_endAlike {outcome : Except RenderError α}
    {walk : Except (RenderError × List UInt64) (α × List UInt64)}
    (h : EndAlike NotedWithinLimit NotedWithinLimit outcome walk) :
    (Recorded.ofWalk walk).outcome = outcome ∧
      ∀ parent ∈ (Recorded.ofWalk walk).parents, parent.toNat < levelLimit := by
  cases h with
  | ok hnoted => exact ⟨congrArg Except.ok hnoted.1, hnoted.2⟩
  | error hnoted => exact ⟨congrArg Except.error hnoted.1, hnoted.2⟩

/-- Printing with a record comes to the same outcome and notes only levels that can be
indented. -/
theorem renderRecorded_follows_render (node : Option Node) (level : UInt64) :
    (renderRecorded node level).outcome = render node level ∧
      ∀ parent ∈ (renderRecorded node level).parents, parent.toNat < levelLimit := by
  have hstart : NotedWithinLimit "" ("", []) := ⟨rfl, List.forall_mem_nil _⟩
  exact Recorded.ofWalk_of_endAlike (inStep_recording.endAlike_pushOptional hstart level node)

/-! ## Trees that cannot be printed -/

/-- A node cannot be printed where its level and its height reach the limit. -/
theorem render_eq_error_iff (node : Node) (level : UInt64) :
    render (some node) level = .error .capacityOverflow ↔
      levelLimit ≤ level.toNat + node.height := by
  rw [render_some_eq, printed, ← Nat.not_lt, ← node.linesFit_outline_iff]
  by_cases hfits : LinesFit level.toNat node.outline
  · simp [hfits]
  · simp [hfits]

/-- A tree that cannot be printed leaves the sink as it was. -/
theorem deliverTree_of_render_eq_error {node : Option Node} {level : UInt64} {error : RenderError}
    (h : render node level = .error error) (sink : Sink) :
    deliverTree sink node level = (.error (.unprinted error), sink) := by
  rw [deliverTree, h]

/-- Of a tree that cannot be printed nothing is emitted. -/
theorem emitTree_of_render_eq_error {m : Type → Type} [Monad m] [LawfulMonad m]
    {node : Option Node} {level : UInt64} {error : RenderError}
    (h : render node level = .error error) (emit : String → m Unit) :
    (emitTree emit node level).run = pure (.error error) := by
  rw [emitTree, h, ExceptT.run_bind]
  exact pure_bind _ _

/-- Printing fails exactly on the levels that cannot be indented, and levels never wrap around.

The height of a tree is the greatest number of child steps to one of its nodes. A node cannot be
printed where the sum of the level and the height reaches the limit, and then its text is neither
offered to a sink nor emitted; an absent node can be printed everywhere. On the way to either
outcome the level of a child is computed only from levels below the limit, and so by an addition
that does not overflow. -/
theorem render_fails_at_the_limit :
    (∀ node : Node, IsGreatest {depth | ∃ path context inner,
      node.walk path = .ok (context, inner) ∧ depth = path.countP (· ≠ "next")} node.height) ∧
    (∀ (node : Node) (level : UInt64), render (some node) level = .error .capacityOverflow ↔
      2 ^ 62 ≤ level.toNat + node.height) ∧
    (∀ level : UInt64, render none level = .ok "") ∧
    (∀ (node : Option Node) (level : UInt64),
      (renderRecorded node level).outcome = render node level ∧
      ∀ parent ∈ (renderRecorded node level).parents,
        parent.toNat < 2 ^ 62 ∧ (parent + 1).toNat = parent.toNat + 1) ∧
    ∀ (node : Option Node) (level : UInt64) (error : RenderError),
      render node level = .error error →
        error.message = "capacity overflow" ∧
        (∀ sink : Sink, deliverTree sink node level = (.error (.unprinted error), sink)) ∧
        ∀ (m : Type → Type) [Monad m] [LawfulMonad m] (emit : String → m Unit),
          (emitTree emit node level).run = pure (.error error) := by
  have hlimit : levelLimit = 2 ^ 62 := by decide
  refine ⟨Node.isGreatest_height, ?_, fun _ => rfl, ?_, ?_⟩
  · intro node level
    rw [← hlimit]
    exact render_eq_error_iff node level
  · intro node level
    obtain ⟨houtcome, hparents⟩ := renderRecorded_follows_render node level
    refine ⟨houtcome, fun parent hparent => ?_⟩
    have hbelow := hparents parent hparent
    exact ⟨hlimit ▸ hbelow, toNat_succ_level hbelow⟩
  · intro node level error herror
    exact ⟨rfl, deliverTree_of_render_eq_error herror,
      fun m _ _ emit => emitTree_of_render_eq_error herror emit⟩

end ProgramTree
