import ProgramTree.Datum.Basic
import ProgramTree.Text.Quoted

/-!
# Writing data as text

A datum is written on one line, with entries separated by commas, or with every entry on a line
of its own, indented by four spaces per nesting level and followed by a comma. Both forms come
from one writer, which asks the layout for the text around the entries of a group.

The writer extends the text it is given and walks the entries of a group in a loop, so only the
nesting of a datum costs pending work.
-/

namespace ProgramTree

/-- How the entries of a group are placed. -/
inductive Layout where
  /-- All on one line. -/
  | compact
  /-- Each on a line of its own, for a group that stands at the given nesting depth. -/
  | indented (depth : Nat)

/-- One entry per line, starting at the left margin. -/
def Layout.pretty : Layout :=
  .indented 0

/-- Start a new line at a nesting depth. -/
def lineStart (depth : Nat) : String :=
  "\n" ++ String.ofList (List.replicate (4 * depth) ' ')

/-- The layout of the groups inside a group. -/
def Layout.inner : Layout → Layout
  | .compact => .compact
  | .indented depth => .indented (depth + 1)

/-- What stands before the first entry of a group, given its text on one line. -/
def Layout.opening (layout : Layout) (padding : String) : String :=
  match layout with
  | .compact => padding
  | .indented depth => lineStart (depth + 1)

/-- What stands between two entries of a group. -/
def Layout.between : Layout → String
  | .compact => ", "
  | .indented depth => "," ++ lineStart (depth + 1)

/-- What stands after the last entry of a group, given its text on one line. -/
def Layout.closing (layout : Layout) (padding : String) : String :=
  match layout with
  | .compact => padding
  | .indented depth => "," ++ lineStart depth

mutual

/-- Write a datum after the given text. -/
def Datum.write (escaped : EscapeSet) (layout : Layout) (out : String) : Datum → String
  | .word name => out ++ name
  | .integer value => out ++ value.repr
  | .text content => out ++ quoted escaped content
  | .wrapped name content =>
    content.write escaped layout.inner (out ++ name ++ "(" ++ layout.opening "") ++
      layout.closing "" ++ ")"
  | .sequence items =>
    writeItems escaped layout (layout.opening "") (out ++ "[") items ++ layout.closing "" ++ "]"
  | .record name fields =>
    writeFields escaped layout (layout.opening " ") (out ++ name ++ " \x7b") fields ++
      layout.closing " " ++ "\x7d"

/-- Write the entries of a sequence, the first after a lead and the others separated. -/
def writeItems (escaped : EscapeSet) (layout : Layout) (lead out : String) :
    Chain Datum → String
  | .last item => item.write escaped layout.inner (out ++ lead)
  | .link item items =>
    writeItems escaped layout layout.between (item.write escaped layout.inner (out ++ lead)) items

/-- Write the labelled fields of a record, the first after a lead and the others separated. -/
def writeFields (escaped : EscapeSet) (layout : Layout) (lead out : String) :
    Chain (String × Datum) → String
  | .last (label, field) => field.write escaped layout.inner (out ++ lead ++ label ++ ": ")
  | .link (label, field) fields =>
    writeFields escaped layout layout.between
      (field.write escaped layout.inner (out ++ lead ++ label ++ ": ")) fields

end

/-- A datum as text in a layout. -/
def Datum.toText (escaped : EscapeSet) (layout : Layout) (datum : Datum) : String :=
  datum.write escaped layout ""

end ProgramTree
