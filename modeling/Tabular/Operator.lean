import Tabular.DataType

/-!
# Binary operators

The operators of expressions with two operands, in four families, and `BinaryOp.supports`, the
table of the types they are defined on.
-/

namespace Tabular

/-- Comparisons. The null-aware forms treat null as a value like any other and never give null. -/
inductive Comparison where
  | eq
  | nullEq
  | ne
  | nullNe
  | lt
  | le
  | gt
  | ge
deriving DecidableEq, Repr

/-- Arithmetic. -/
inductive Arithmetic where
  | add
  | sub
  | mul
  /-- Division in the result's type; integer division truncates. -/
  | div
  /-- Division in floating point. -/
  | trueDiv
  | floorDiv
  /-- Remainder with the sign of the divisor. -/
  | floorMod
deriving DecidableEq, Repr

/-- Bitwise operators. -/
inductive Bitwise where
  | and
  | or
  | xor
deriving DecidableEq, Repr

/-- Logical connectives. The Kleene forms decide from one operand where it is enough. -/
inductive Connective where
  | and
  | or
  | kleeneAnd
  | kleeneOr
deriving DecidableEq, Repr

/-- A binary operator. -/
inductive BinaryOp where
  | comparison (c : Comparison)
  | arithmetic (a : Arithmetic)
  | bitwise (b : Bitwise)
  | logical (c : Connective)
deriving DecidableEq, Repr

namespace BinaryOp

/-- Whether the operator is a comparison. -/
def isComparison : BinaryOp → Bool
  | comparison _ => true
  | _ => false

/-- Whether the operator is arithmetic. -/
def isArithmetic : BinaryOp → Bool
  | arithmetic _ => true
  | _ => false

/-- Whether the operator is bitwise. -/
def isBitwise : BinaryOp → Bool
  | bitwise _ => true
  | _ => false

/-- Whether the operator is a logical connective. -/
def isLogical : BinaryOp → Bool
  | logical _ => true
  | _ => false

/-- The operator's name. -/
def name : BinaryOp → String
  | comparison .eq => "EQUAL"
  | comparison .nullEq => "NULL_EQUALS"
  | comparison .ne => "NOT_EQUAL"
  | comparison .nullNe => "NULL_NOT_EQUALS"
  | comparison .lt => "LESS"
  | comparison .le => "LESS_EQUAL"
  | comparison .gt => "GREATER"
  | comparison .ge => "GREATER_EQUAL"
  | arithmetic .add => "ADD"
  | arithmetic .sub => "SUB"
  | arithmetic .mul => "MUL"
  | arithmetic .div => "DIV"
  | arithmetic .trueDiv => "TRUE_DIV"
  | arithmetic .floorDiv => "FLOOR_DIV"
  | arithmetic .floorMod => "PYMOD"
  | bitwise .and => "BITWISE_AND"
  | bitwise .or => "BITWISE_OR"
  | bitwise .xor => "BITWISE_XOR"
  | logical .and => "LOGICAL_AND"
  | logical .or => "LOGICAL_OR"
  | logical .kleeneAnd => "NULL_LOGICAL_AND"
  | logical .kleeneOr => "NULL_LOGICAL_OR"

/-- Every operator. -/
def all : List BinaryOp :=
  [Comparison.eq, .nullEq, .ne, .nullNe, .lt, .le, .gt, .ge].map comparison ++
  [Arithmetic.add, .sub, .mul, .div, .trueDiv, .floorDiv, .floorMod].map arithmetic ++
  [Bitwise.and, .or, .xor].map bitwise ++
  [Connective.and, .or, .kleeneAnd, .kleeneOr].map logical

/-- The operator of a name. -/
def ofName? (name : String) : Option BinaryOp := all.find? (·.name == name)

/-- The type of a sum or difference of timestamps and durations, where there is one. -/
def temporalResult? : BinaryOp → DataType → DataType → Option DataType
  | arithmetic .sub, .timestamp a _, .timestamp b _ => if a = b then some (.duration a) else none
  | arithmetic .add, .timestamp a zone, .duration b =>
    if a = b then some (.timestamp a zone) else none
  | arithmetic .sub, .timestamp a zone, .duration b =>
    if a = b then some (.timestamp a zone) else none
  | arithmetic .add, .duration a, .timestamp b zone =>
    if a = b then some (.timestamp b zone) else none
  | arithmetic .add, .duration a, .duration b => if a = b then some (.duration a) else none
  | arithmetic .sub, .duration a, .duration b => if a = b then some (.duration a) else none
  | _, _, _ => none

/-- Whether operands of types `l` and `r` give a result of type `out`. -/
def supports (op : BinaryOp) (out l r : DataType) : Bool :=
  match op with
  | comparison _ =>
    out = .boolean && (l = r || (l.isNumeric && r.isNumeric) || (l.isText && r.isText))
  | logical _ =>
    out = .boolean && (l = .boolean || l.isInteger) && (r = .boolean || r.isInteger)
  | bitwise _ =>
    (out.isInteger && l.isInteger && r.isInteger) ||
      (out = .boolean && l = .boolean && r = .boolean)
  | arithmetic _ =>
    if l.isNumeric && r.isNumeric then out.isNumeric else op.temporalResult? l r = some out

end BinaryOp

end Tabular
