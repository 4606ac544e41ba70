import Mathlib.Data.List.Forall2
import ProgramTree.Proofs.Composition

/-!
# Printing turns linking into joining texts

The outline of a chain joins those of its entries, and all of them are printed at one level. So an
entry in front of a chain is printed before it, however the chain was built. Appending keeps what
is linked after both nodes, and both are printed with it. Relinking keeps the first entries of the
given nodes, and each of them is printed as it is on its own. A block adds one line in front of its
statements and prints them one level deeper.
-/

namespace ProgramTree

/-- An entry in front of an optional chain is printed when both are, and then before the chain. -/
theorem render_cons_eq_ok_iff (head : Form) (rest : Option Node) (level : UInt64)
    (text : String) :
    render (some (Chain.cons head rest)) level = .ok text ↔
      ∃ shown others, render (some (.last head)) level = .ok shown ∧
        render rest level = .ok others ∧ text = shown ++ others := by
  apply render_eq_ok_iff_of_outline_append
  rw [Node.outlineOptional, Node.outlineOptional, Node.outline_cons, Node.outline]

/-- Relinked nodes are printed when the first entry of each is, and then one after another. -/
theorem render_relink_eq_ok_iff (nodes : List Node) (level : UInt64) (text : String) :
    render (Chain.relink nodes) level = .ok text ↔
      ∃ texts, List.Forall₂ (fun node shown => render (some node.detached) level = .ok shown)
        nodes texts ∧ text = String.join texts := by
  induction nodes generalizing text with
  | nil =>
    rw [Chain.relink_nil]
    simp only [List.forall₂_nil_left_iff, exists_eq_left, String.join_nil]
    exact ⟨fun h => (Except.ok.inj h).symm, fun h => by rw [h]; rfl⟩
  | cons node nodes ih =>
    rw [Chain.relink_cons, render_cons_eq_ok_iff]
    constructor
    · rintro ⟨shown, others, hshown, hothers, rfl⟩
      obtain ⟨texts, htexts, rfl⟩ := (ih others).mp hothers
      exact ⟨shown :: texts, .cons hshown htexts, String.join_cons.symm⟩
    · rintro ⟨texts, htexts, rfl⟩
      obtain ⟨shown, others, hshown, hothers, rfl⟩ := List.forall₂_cons_left_iff.mp htexts
      exact ⟨shown, String.join others, hshown, (ih _).mpr ⟨others, hothers, rfl⟩,
        String.join_cons⟩

/-- What is linked after a node that is relinked is not printed. -/
example :
    render (Chain.relink [(Node.integer 1).append (Node.integer 2), Node.integer 3]) 1 =
      .ok "  Int: 1\n  Int: 3\n" := by
  rfl

/-- A block is printed when its line can be indented and its statements are printed one level
deeper, and then as that line before them. -/
theorem render_block_eq_ok_iff (statements : Option Node) (level : UInt64) (text : String) :
    render (some (Node.block statements)) level = .ok text ↔
      2 * level.toNat ≤ maxTextBytes ∧
        ∃ body, render statements (level + 1) = .ok body ∧
          text = String.ofList (List.replicate (2 * level.toNat) ' ') ++ "Block\n" ++ body := by
  have houtline : Node.outline (Node.block statements) =
      ⟨0, "Block"⟩ :: deepen (Node.outlineOptional statements) := by
    rw [Node.block, Node.outline, Form.outline]
    rfl
  have hline : Line.text level.toNat ⟨0, "Block"⟩ =
      String.ofList (List.replicate (2 * level.toNat) ' ') ++ "Block\n" := by
    rw [Line.text, String.append_assoc]
    rfl
  simp only [render_eq_ok_iff, Node.outlineOptional, houtline, linesFit_cons_base,
    outlineText, hline, deepen_eq_deepenBy, linesFit_deepenBy, outlineText_deepenBy,
    indent_fits_iff]
  -- The line of the block was printed, so the level of the statements does not wrap around.
  constructor
  · rintro ⟨⟨hlevel, hbody⟩, rfl⟩
    rw [toNat_succ_level hlevel]
    exact ⟨hlevel, _, ⟨hbody, rfl⟩, rfl⟩
  · rintro ⟨hlevel, body, ⟨hbody, rfl⟩, rfl⟩
    rw [toNat_succ_level hlevel] at hbody ⊢
    exact ⟨⟨hlevel, hbody⟩, rfl⟩

/-- Printing takes the ways of building chains to the joining of texts.

Each of these outcomes is printed exactly when its parts are. A node with another appended to it is
printed as the first and then the second, with everything linked after either. Relinked nodes are
printed as each of them on its own, in order, without what was linked after it. A block around
relinked nodes is printed as its own line, indented by two spaces for each level, and then as the
relinked nodes one level deeper. -/
theorem render_joins_chains (level : UInt64) :
    (∀ (first second : Node) (text : String),
      render (some (first.append second)) level = .ok text ↔
        ∃ shown added, render (some first) level = .ok shown ∧
          render (some second) level = .ok added ∧ text = shown ++ added) ∧
    (∀ (nodes : List Node) (text : String),
      render (Chain.relink nodes) level = .ok text ↔
        ∃ texts, List.Forall₂ (fun node shown => render (some node.detached) level = .ok shown)
          nodes texts ∧ text = String.join texts) ∧
    ∀ (nodes : List Node) (text : String),
      render (some (Node.block (Chain.relink nodes))) level = .ok text ↔
        2 * level.toNat ≤ maxTextBytes ∧
          ∃ body, render (Chain.relink nodes) (level + 1) = .ok body ∧
            text = String.ofList (List.replicate (2 * level.toNat) ' ') ++ "Block\n" ++ body :=
  ⟨fun first second text => render_append_eq_ok_iff first second level text,
    fun nodes text => render_relink_eq_ok_iff nodes level text,
    fun nodes text => render_block_eq_ok_iff (Chain.relink nodes) level text⟩

end ProgramTree
