/-!
# Lines of a text

A text is divided at line feeds only. A line feed at the very end closes the last line and opens
no further one, so the empty text has no lines.
-/

namespace ProgramTree

/-- The pieces of a text before, between and after its line feeds. -/
def pieces (text : String) : List String :=
  (text.split '\n').toList.map String.Slice.copy

/-- The lines of a text without their line feeds; an empty piece at the end is no line. -/
def lines (text : String) : List String :=
  let pieces := pieces text
  if pieces.getLast? = some "" then pieces.dropLast else pieces

/-- The pieces of a text divide the list of its characters. -/
theorem pieces_eq (text : String) :
    pieces text = (text.toList.splitOn '\n').map String.ofList :=
  String.toList_split_char

/-- Size figures of a text: its length in UTF-8, its number of lines and its last line. -/
structure TextStatistics where
  bytes : Nat
  lineCount : Nat
  lastLine : Option String

/-- Measure a text. -/
def textStatistics (text : String) : TextStatistics :=
  let lines := lines text
  { bytes := text.utf8ByteSize
    lineCount := lines.length
    lastLine := lines.getLast? }

end ProgramTree
