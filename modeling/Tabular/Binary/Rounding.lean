import Tabular.Binary.Basic

/-!
# Rounding to the nearest floating-point number

`Binary.ofRatio` is the nearest number of a floating-point type to an exact ratio, a tie going to
the even significand. Every conversion into floating point, from integers, from decimal text and
between the two precisions, goes through it.

With `p` fraction bits, a significand `m` at exponent `q` is the pattern
`(q - minExponent) * 2 ^ p + m`. The formula needs no case for the least exponent, and a
significand that rounds up to `2 ^ (p + 1)` carries into the exponent by itself.
-/

namespace Tabular

/-- The integer nearest to `num / den`, a tie going to the even one. -/
def roundDiv (num den : Nat) : Nat :=
  let q := num / den
  let r := num % den
  if 2 * r < den then q
  else if den < 2 * r then q + 1
  else if q % 2 = 0 then q else q + 1

namespace Binary

variable {t : FloatType}

/-- The number `e` with `2 ^ e ≤ num / den < 2 ^ (e + 1)`. -/
def ratioLog2 (num den : Nat) : Int :=
  let e : Int := (num.log2 : Int) - den.log2
  let below := if 0 ≤ e then num < den * twoTo e.toNat else num * twoTo (-e).toNat < den
  if below then e - 1 else e

/-- The floating-point number nearest to `± num / den`. -/
def ofRatio (negative : Bool) (num den : Nat) : Binary t :=
  if num = 0 then ofMagnitude negative 0
  else
    let q := max t.minExponent (ratioLog2 num den - t.fractionBits)
    let m := if 0 ≤ q then roundDiv num (den * twoTo q.toNat)
      else roundDiv (num * twoTo (-q).toNat) den
    let magnitude := (q - t.minExponent).toNat * twoTo t.fractionBits + m
    ofMagnitude negative (Nat.min magnitude (infMagnitude t))

/-- The floating-point number nearest to `± m * 2 ^ q`. -/
def ofScaled (negative : Bool) (m : Nat) (q : Int) : Binary t :=
  if 0 ≤ q then ofRatio negative (m * twoTo q.toNat) 1 else ofRatio negative m (twoTo (-q).toNat)

/-- The floating-point number nearest to an integer. -/
def ofInt (i : Int) : Binary t := ofRatio (decide (i < 0)) i.natAbs 1

/-- The floating-point number nearest to `± digits * 10 ^ exponent`. Exponents beyond every finite
number are cut off first, so that the powers stay small. -/
def ofDecimal (negative : Bool) (digits : Nat) (exponent : Int) : Binary t :=
  let scale := exponent + (digits.log2 / 3 : Nat)
  if digits = 0 then ofMagnitude negative 0
  else if scale + 1 < -400 then ofMagnitude negative 0
  else if 400 < exponent then inf negative
  else if 0 ≤ exponent then ofRatio negative (digits * tenTo exponent.toNat) 1
  else ofRatio negative digits (tenTo (-exponent).toNat)

/-- The integer part of a finite number, toward zero; nothing for infinities and NaNs. -/
def truncate? (x : Binary t) : Option Int :=
  if x.isFinite then
    let (m, q) := x.scaled
    let n := if 0 ≤ q then m * twoTo q.toNat else m / twoTo (-q).toNat
    some (if x.isNegative then -(n : Int) else n)
  else none

/-- The nearest number of another floating-point type. A NaN keeps its sign and the leading bits
of its payload and becomes quiet. -/
def convert {s : FloatType} (t : FloatType) (x : Binary s) : Binary t :=
  if x.isNan then
    let payload := x.magnitude - infMagnitude s
    let shifted := payload * twoTo t.fractionBits / twoTo s.fractionBits
    quiet (ofMagnitude x.isNegative (infMagnitude t + shifted))
  else if x.isInfinite then inf x.isNegative
  else ofScaled x.isNegative x.scaled.1 x.scaled.2

/-! ### Columns of numbers

Numbers of half precision are made from those of single precision, so what goes into a column of
them is rounded twice. -/

/-- The number that a column holds for an integer. -/
def stored (t : FloatType) (i : Int) : Binary t :=
  match t with
  | .half => convert .half (ofInt i : Binary .single)
  | t => (ofInt i : Binary t)

/-- The number that a column holds for one of another precision. -/
def restored {s : FloatType} (t : FloatType) (x : Binary s) : Binary t :=
  match t with
  | .half => convert .half (convert .single x)
  | t => convert t x

/-- Where a type has arithmetic, an integer is stored by one rounding. -/
theorem stored_eq_ofInt (ht : t.hasArithmetic = true) (i : Int) : stored t i = ofInt i := by
  cases t with
  | half => cases ht
  | _ => rfl

/-- Where a type has arithmetic, a number of another type is stored by one rounding. -/
theorem restored_eq_convert {s : FloatType} (ht : t.hasArithmetic = true) (x : Binary s) :
    restored t x = convert t x := by
  cases t with
  | half => cases ht
  | _ => rfl

end Binary

end Tabular
