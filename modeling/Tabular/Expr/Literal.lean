import Tabular.Conversion.Cast
import Tabular.Text.Quoted
import Tabular.Text.Record

/-!
# Literals

A literal is one scalar in its widest natural form. Its data type is declared by the expression
that holds it, and the value is cast to that type where it is used.

Floating-point literals are equal when their bit patterns are, so a NaN literal equals itself.
-/

namespace Tabular

/-- A scalar. -/
inductive Literal where
  | null
  | boolean (b : Bool)
  | int (i : FixedInt .int64)
  | uint (i : FixedInt .uint64)
  | float (x : Binary .double)
  | text (s : String)
deriving DecidableEq

namespace Literal

/-- The written form. -/
def printed : Literal → String
  | null => "null"
  | boolean b => Text.flag b
  | int i => toString i.toInt
  | uint i => toString i.toInt
  | float x => FloatStyle.printed.format x
  | text s => Text.quoted s

/-- Whether the literal is null. -/
def isNull : Literal → Bool
  | null => true
  | _ => false

/-- The value of an integer that fits 64 signed bits. -/
def asInt? : Literal → Option (FixedInt .int64)
  | int i => some i
  | uint i => FixedInt.ofInt? .int64 i.toInt
  | _ => none

/-- The value of a number in double precision. -/
def asFloat? : Literal → Option (Binary .double)
  | int i => some (Binary.ofInt i.toInt)
  | uint i => some (Binary.ofInt i.toInt)
  | float x => some x
  | _ => none

/-- The value of a text. -/
def asText? : Literal → Option String
  | text s => some s
  | _ => none

/-- The literal in its natural type, for literals that are not null. -/
def natural? : Literal → Option Series
  | null => none
  | boolean b => some (.single .boolean (some b))
  | int i => some (.single .int64 (some i))
  | uint i => some (.single .uint64 (some i))
  | float x => some (.single .float64 (some x))
  | text s => some (.single .utf8 (some s))

/-- The literal as a series of one row of type `d`. -/
def toSeries (v : Literal) (d : DataType) : Outcome Series :=
  match v.natural? with
  | none => .ok (.nulls d 1)
  | some s =>
    match s.cast d with
    | .ok s => .ok s
    | .error _ => invalid (.literal v.printed d)

end Literal

end Tabular
