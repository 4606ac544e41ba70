import ProgramTree.Chain.Basic

/-!
# Data as shown to a reader

A datum is the shape in which a value is shown as structured text: words, integers, texts,
wrapped data, sequences and records with named fields. Values of other types are described as
data first and written as text in one place. Sequences and records have at least one entry.
-/

namespace ProgramTree

/-- A value described by the parts that are shown of it. -/
inductive Datum where
  /-- A bare word, such as the name of a constant. -/
  | word (name : String)
  /-- An integer, written in decimal. -/
  | integer (value : Int)
  /-- A text, written in quotes. -/
  | text (content : String)
  /-- A named wrapper around one datum. -/
  | wrapped (name : String) (content : Datum)
  /-- A sequence of data. -/
  | sequence (items : Chain Datum)
  /-- A named record with its labelled fields in order. -/
  | record (name : String) (fields : Chain (String × Datum))

end ProgramTree
