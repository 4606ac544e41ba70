import ProgramTree.Text.DefaultIgnorable
import ProgramTree.Text.GraphemeExtend
import ProgramTree.Text.Nonprinting
import ProgramTree.Text.Quoted

/-!
# Characters written by their code points

The characters that a reader could not see or could not tell apart from their neighbours: those
without a printed form, those that are ignored when drawn and those that are drawn onto the
preceding character.
-/

namespace ProgramTree

/-- The characters that a quoted text writes by their code points. -/
def invisible : EscapeSet := fun character =>
  isOverlay character || isDefaultIgnorable character || isNonprinting character

end ProgramTree
