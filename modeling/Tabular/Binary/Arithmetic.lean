import Tabular.Binary.Rounding

/-!
# Floating-point arithmetic

Arithmetic on bit patterns. The value of an operation is that of double-precision arithmetic; for
single precision the exact operands are widened and the result is rounded once more, which for
the four basic operations gives the correctly rounded single-precision result.

What the numbers leave open is fixed here: an operation on a NaN gives that NaN, made quiet, the
first operand's if both are NaNs; an invalid operation on numbers, such as `0 / 0`, gives the
negative quiet NaN.
-/

namespace Tabular

namespace Binary

variable {t : FloatType}

/-- The machine number of a double-precision pattern. -/
def toFloat (x : Binary .double) : Float := Float.ofBits (UInt64.ofBitVec x.bits)

/-- The pattern of a machine number that is not a NaN. -/
def ofFloat (x : Float) : Binary .double := ⟨x.toBits.toBitVec⟩

/-- The pattern of a machine result: the negative quiet NaN if the operation was invalid. -/
def ofResult (x : Float) : Binary t := if x.isNaN then nan true else convert t (ofFloat x)

/-- A machine function applied to a pattern. -/
def lift (f : Float → Float) (x : Binary t) : Binary t :=
  if x.isNan then x.quiet else ofResult (f (convert .double x).toFloat)

/-- A machine operation applied to two patterns. -/
def lift₂ (f : Float → Float → Float) (x y : Binary t) : Binary t :=
  if x.isNan then x.quiet
  else if y.isNan then y.quiet
  else ofResult (f (convert .double x).toFloat (convert .double y).toFloat)

/-- The sum. -/
def add (x y : Binary t) : Binary t := lift₂ (· + ·) x y

/-- The difference. -/
def sub (x y : Binary t) : Binary t := lift₂ (· - ·) x y

/-- The product. -/
def mul (x y : Binary t) : Binary t := lift₂ (· * ·) x y

/-- The quotient. -/
def div (x y : Binary t) : Binary t := lift₂ (· / ·) x y

/-- The greatest whole number not above `x`. -/
def floor (x : Binary t) : Binary t := lift Float.floor x

/-- The least whole number not below `x`. -/
def ceil (x : Binary t) : Binary t := lift Float.ceil x

/-- The nearest whole number, a tie going away from zero. -/
def round (x : Binary t) : Binary t := lift Float.round x

/-- The square root. -/
def sqrt (x : Binary t) : Binary t := lift Float.sqrt x

/-- The remainder of the quotient toward zero, computed exactly; it has the sign of `x`. -/
def rem (x y : Binary t) : Binary t :=
  if x.isNan then x.quiet
  else if y.isNan then y.quiet
  else if x.isInfinite || y.isZero then nan true
  else if y.isInfinite then x
  else
    let (m, p) := x.scaled
    let (n, q) := y.scaled
    let e := min p q
    ofScaled x.isNegative (m * twoTo (p - e).toNat % (n * twoTo (q - e).toNat)) e

/-- The quotient rounded toward negative infinity. -/
def floorDiv (x y : Binary t) : Binary t := (x.div y).floor

/-- The remainder with the sign of the divisor. -/
def floorMod (x y : Binary t) : Binary t :=
  let r := x.rem y
  if !r.isZero && r.isBelowZero != y.isBelowZero then r.add y else r

/-- Powers by repeated squaring, the factors taken from the low bit of the exponent up. -/
def powLoop (acc base : Binary t) (n : Nat) : Binary t :=
  let acc := if n % 2 = 1 then acc.mul base else acc
  if h : n / 2 = 0 then acc else powLoop acc (base.mul base) (n / 2)
termination_by n
decreasing_by omega

/-- The power with an integer exponent; a negative one gives the reciprocal of the power. -/
def powInt (base : Binary t) (n : Int) : Binary t :=
  let p := powLoop (ofInt 1) base n.natAbs
  if n < 0 then (ofInt 1 : Binary t).div p else p

/-- The value rounded to `decimals` places, a half going away from zero. -/
def roundTo (decimals : Nat) (x : Binary .double) : Binary .double :=
  let exponent := signedPlaces decimals
  let factor := powInt (ofInt 10) exponent
  ((x.mul factor).round).div factor
where
  /-- Place counts are read as signed 32-bit numbers. -/
  signedPlaces (n : Nat) : Int := if n < twoTo 31 then n else (n : Int) - twoTo 32

end Binary

end Tabular
