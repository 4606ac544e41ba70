import ProgramTree.Datum.Basic

/-!
# Diagnostics

A diagnostic reports why a tree could not be built. It carries its cause, from which its name,
its message and a tip for the reader follow.
-/

namespace ProgramTree

/-- Why a tree could not be built. -/
inductive Cause where
  /-- A code that stands for no operator. -/
  | unknownOperatorCode (code : Int32)
  deriving DecidableEq

/-- A report of one cause. -/
structure Diagnostic where
  cause : Cause
  deriving DecidableEq

/-- Advice that comes with a diagnostic. -/
inductive Tip where
  /-- No advice. -/
  | none
  /-- A sentence of advice. -/
  | suggestion (sentence : String)

/-- A cause in words. -/
def Cause.message : Cause → String
  | .unknownOperatorCode code => "unknown operator code: " ++ code.toInt.repr

/-- Describe a cause with the values it carries. -/
def Cause.describe : Cause → Datum
  | .unknownOperatorCode code =>
    .record "UnknownOperatorCode" (.last ("code", .integer code.toInt))

/-- The short name under which a diagnostic is filed. -/
def Diagnostic.name (diagnostic : Diagnostic) : String :=
  match diagnostic.cause with
  | .unknownOperatorCode _ => "UnknownOperatorCode"

/-- A diagnostic in words: those of its cause. -/
def Diagnostic.message (diagnostic : Diagnostic) : String :=
  diagnostic.cause.message

/-- The advice for a diagnostic. -/
def Diagnostic.tip (diagnostic : Diagnostic) : Tip :=
  match diagnostic.cause with
  | .unknownOperatorCode code =>
    .suggestion ("Operator code `" ++ code.toInt.repr ++
      "` is outside the known range, was it produced by a newer parser?")

/-- Describe a diagnostic as a record of its cause. -/
def Diagnostic.describe (diagnostic : Diagnostic) : Datum :=
  .record "Error" (.last ("internal_error", diagnostic.cause.describe))

/-- The text of a tip; no advice has an empty text. -/
def Tip.message : Tip → String
  | .none => ""
  | .suggestion sentence => sentence

end ProgramTree
