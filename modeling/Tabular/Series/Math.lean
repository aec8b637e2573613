import Tabular.Binary.Arithmetic
import Tabular.Series

/-!
# Elementary functions over series

The function of each value; nulls stay null. Most functions are those of floating-point numbers,
computed in double precision and rounded to the column's precision. Absolute value, rounding and
bitwise complement also have their integer meaning, and negation its Boolean one.

Half precision has no functions, and a function that a type does not have is refused before any row
is looked at.
-/

namespace Tabular

/-- A function of one number. -/
inductive MathOp where
  | sin
  | cos
  | tan
  | arcsin
  | arccos
  | arctan
  | sinh
  | cosh
  | tanh
  | arcsinh
  | arccosh
  | arctanh
  | exp
  | sqrt
  | cbrt
  | ceil
  | floor
  | abs
  | bitInvert
  | not
deriving DecidableEq, Repr

namespace MathOp

/-- The function's name, and the name of its kind in printed expressions. -/
def names : MathOp → String × String
  | sin => ("sin", "Sin")
  | cos => ("cos", "Cos")
  | tan => ("tan", "Tan")
  | arcsin => ("arcsin", "Arcsin")
  | arccos => ("arccos", "Arccos")
  | arctan => ("arctan", "Arctan")
  | sinh => ("sinh", "Sinh")
  | cosh => ("cosh", "Cosh")
  | tanh => ("tanh", "Tanh")
  | arcsinh => ("arcsinh", "Arcsinh")
  | arccosh => ("arccosh", "Arccosh")
  | arctanh => ("arctanh", "Arctanh")
  | exp => ("exp", "Exp")
  | sqrt => ("sqrt", "Sqrt")
  | cbrt => ("cbrt", "Cbrt")
  | ceil => ("ceil", "Ceil")
  | floor => ("floor", "Floor")
  | abs => ("abs", "Abs")
  | bitInvert => ("bit_invert", "BitInvert")
  | not => ("not", "Not")

/-- The function's name. -/
def name (op : MathOp) : String := op.names.1

/-- The name in printed expressions. -/
def printedName (op : MathOp) : String := op.names.2

/-- Every function. -/
def all : List MathOp :=
  [sin, cos, tan, arcsin, arccos, arctan, sinh, cosh, tanh, arcsinh, arccosh, arctanh, exp, sqrt,
    cbrt, ceil, floor, abs, bitInvert, not]

/-- The function of a name. -/
def ofName? (name : String) : Option MathOp := all.find? (·.name == name)

/-- From this size on, the double of a number is infinite, and so are the inverse hyperbolic sine
and cosine, whose logarithm is taken of that double. -/
def doublingLimit : Float := Float.scaleB 1.0 1023

/-- The inverse hyperbolic sine. -/
def arsinhOf (x : Float) : Float :=
  if doublingLimit ≤ x.abs then x * doublingLimit * 2 else Float.asinh x

/-- The inverse hyperbolic cosine. -/
def arcoshOf (x : Float) : Float :=
  if doublingLimit ≤ x then x * doublingLimit * 2 else Float.acosh x

/-- The function on floating-point numbers; the two bitwise ones have none. -/
def onFloats? {t : FloatType} : MathOp → Option (Binary t → Binary t)
  | sin => some (Binary.lift Float.sin)
  | cos => some (Binary.lift Float.cos)
  | tan => some (Binary.lift Float.tan)
  | arcsin => some (Binary.lift Float.asin)
  | arccos => some (Binary.lift Float.acos)
  | arctan => some (Binary.lift Float.atan)
  | sinh => some (Binary.lift Float.sinh)
  | cosh => some (Binary.lift Float.cosh)
  | tanh => some (Binary.lift Float.tanh)
  | arcsinh => some (Binary.lift arsinhOf)
  | arccosh => some fun x ↦
    let y := Binary.lift arcoshOf x
    if y.isNan && !x.isNan then Binary.nan false else y
  | arctanh => some (Binary.lift Float.atanh)
  | exp => some (Binary.lift Float.exp)
  | sqrt => some Binary.sqrt
  | cbrt => some (Binary.lift Float.cbrt)
  | ceil => some Binary.ceil
  | floor => some Binary.floor
  | abs => some Binary.abs
  | bitInvert => none
  | not => none

/-- The function on integers, where it has an integer meaning. -/
def onInts? {t : IntType} : MathOp → Option (FixedInt t → FixedInt t)
  | ceil => some id
  | floor => some id
  | abs => some FixedInt.abs
  | bitInvert => some FixedInt.bitNot
  | _ => none

/-- What the function is called when it meets a type that it is not defined over. -/
def refusalName : MathOp → String
  | bitInvert => "integer kernel"
  | op => op.name

end MathOp

namespace Series

/-- The function of every value. -/
def math (op : MathOp) (s : Series) : Outcome Series :=
  let refusal := unsupported (.undefinedOver op.refusalName s.dtype)
  match s with
  | ⟨.boolean, rows⟩ =>
    if op = .not ∨ op = .bitInvert then .ok (ofFlags (rows.map (Option.map Bool.not)))
    else refusal
  | ⟨.integer t, rows⟩ =>
    match op.onInts? with
    | some f => .ok ⟨.integer t, rows.map (Option.map f)⟩
    | none => refusal
  | ⟨.float t, rows⟩ =>
    match t.hasArithmetic, op.onFloats? with
    | true, some f => .ok ⟨.float t, rows.map (Option.map f)⟩
    | _, _ => refusal
  | _ => refusal

/-- Every value rounded to a number of decimal places, halves away from zero. -/
def round (decimals : Nat) (s : Series) : Outcome Series :=
  match s with
  | ⟨.integer t, rows⟩ => .ok ⟨.integer t, rows⟩
  | ⟨.float t, rows⟩ =>
    if t.hasArithmetic then
      .ok ⟨.float t, rows.map (Option.map fun x ↦
        ((x.convert .double).roundTo decimals).convert t)⟩
    else unsupported (.undefinedOver "round" (.float t))
  | ⟨d, _⟩ => unsupported (.undefinedOver "round" d)

end Series

end Tabular
