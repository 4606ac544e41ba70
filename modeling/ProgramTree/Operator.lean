import ProgramTree.Diagnostic

/-!
# Operators

The fifteen operators of binary and unary expressions. Every operator has a numeric code, which
is what an outline shows, a name and a spelling. Codes run from zero upward in a fixed order and
identify the operator; spellings do not, as subtraction and negation share one.
-/

namespace ProgramTree

/-- An operator of an expression. -/
inductive Operator where
  | add
  | sub
  | mul
  | div
  | mod
  | eq
  | notEq
  | less
  | lessEq
  | greater
  | greaterEq
  | and
  | or
  | not
  | neg
  deriving DecidableEq

/-- All operators in the order of their codes. -/
def Operator.all : List Operator :=
  [.add, .sub, .mul, .div, .mod, .eq, .notEq, .less, .lessEq, .greater, .greaterEq, .and, .or,
    .not, .neg]

/-- The numeric code of an operator. -/
def Operator.code : Operator → Int32
  | .add => 0
  | .sub => 1
  | .mul => 2
  | .div => 3
  | .mod => 4
  | .eq => 5
  | .notEq => 6
  | .less => 7
  | .lessEq => 8
  | .greater => 9
  | .greaterEq => 10
  | .and => 11
  | .or => 12
  | .not => 13
  | .neg => 14

/-- The spelling of an operator in a program. -/
def Operator.symbol : Operator → String
  | .add => "+"
  | .sub => "-"
  | .mul => "*"
  | .div => "/"
  | .mod => "%"
  | .eq => "=="
  | .notEq => "!="
  | .less => "<"
  | .lessEq => "<="
  | .greater => ">"
  | .greaterEq => ">="
  | .and => "&&"
  | .or => "||"
  | .not => "!"
  | .neg => "-"

/-- The name of an operator. -/
def Operator.name : Operator → String
  | .add => "Add"
  | .sub => "Sub"
  | .mul => "Mul"
  | .div => "Div"
  | .mod => "Mod"
  | .eq => "Eq"
  | .notEq => "NotEq"
  | .less => "Less"
  | .lessEq => "LessEq"
  | .greater => "Greater"
  | .greaterEq => "GreaterEq"
  | .and => "And"
  | .or => "Or"
  | .not => "Not"
  | .neg => "Neg"

/-- The operator with the given code, or a diagnostic that names the code. -/
def Operator.ofCode (code : Int32) : Except Diagnostic Operator :=
  match Operator.all.find? (fun operator => operator.code = code) with
  | some operator => .ok operator
  | none => .error ⟨.unknownOperatorCode code⟩

/-- The operators that occur in a list, each once, in the order of their codes. -/
def Operator.distinct (operators : List Operator) : List Operator :=
  Operator.all.filter fun operator => operators.contains operator

/-- Every operator is listed. -/
theorem Operator.mem_all (operator : Operator) : operator ∈ Operator.all := by
  cases operator <;> decide

/-- The code of an operator is decoded to that operator. -/
theorem Operator.ofCode_code (operator : Operator) :
    Operator.ofCode operator.code = .ok operator := by
  cases operator <;> rfl

/-- Operators with one code are one operator. -/
theorem Operator.code_injective {first second : Operator} (h : first.code = second.code) :
    first = second := by
  have decoded : Operator.ofCode first.code = Operator.ofCode second.code := by rw [h]
  rw [ofCode_code, ofCode_code] at decoded
  exact Except.ok.inj decoded

end ProgramTree
