import Tabular.DataType

/-!
# Binary floating point as bit patterns

A `Binary t` is the bit pattern of a floating-point number: sign, exponent field and fraction.
Working on patterns keeps apart what arithmetic confuses, the two zeros and the many NaNs, and makes
equality of values the equality of patterns.

`orderKey` maps patterns to integers so that the integer order is the total order on floating point:
negative NaNs, negative numbers, `-0.0`, `0.0`, positive numbers, positive NaNs. Nothing is lost on
the way (`orderKey_injective`), since a pattern is its magnitude together with its sign bit: this is
why a sort by the key has ties only between equal patterns.
-/

namespace Tabular

/-- A floating-point number of type `t`, by its bit pattern. -/
structure Binary (t : FloatType) where
  /-- The sign, exponent and fraction bits. -/
  bits : BitVec t.width
deriving DecidableEq

namespace Binary

variable {t : FloatType}

theorem ext {a b : Binary t} (h : a.bits = b.bits) : a = b := by
  cases a; cases b; cases h; rfl

/-- The weight of the sign bit. -/
def signWeight (t : FloatType) : Nat := twoTo (t.width - 1)

/-- The magnitude of infinity; magnitudes above it are NaNs. -/
def infMagnitude (t : FloatType) : Nat :=
  (twoTo (t.width - 1 - t.fractionBits) - 1) * twoTo t.fractionBits

/-- The pattern with the given sign and magnitude. -/
def ofMagnitude (negative : Bool) (magnitude : Nat) : Binary t :=
  ⟨BitVec.ofNat t.width (magnitude + if negative then signWeight t else 0)⟩

/-- The pattern without its sign bit. -/
def magnitude (x : Binary t) : Nat := x.bits.toNat % signWeight t

/-- The sign bit. -/
def isNegative (x : Binary t) : Bool := decide (signWeight t ≤ x.bits.toNat)

/-- Patterns that stand for no number. -/
def isNan (x : Binary t) : Bool := decide (infMagnitude t < x.magnitude)

/-- The two infinities. -/
def isInfinite (x : Binary t) : Bool := decide (x.magnitude = infMagnitude t)

/-- Patterns that stand for a real number. -/
def isFinite (x : Binary t) : Bool := decide (x.magnitude < infMagnitude t)

/-- The two zeros. -/
def isZero (x : Binary t) : Bool := decide (x.magnitude = 0)

/-- Positive zero. -/
def zero : Binary t := ofMagnitude false 0

instance : Inhabited (Binary t) := ⟨zero⟩

/-- Infinity of the given sign. -/
def inf (negative : Bool) : Binary t := ofMagnitude negative (infMagnitude t)

/-- The weight of the bit that marks a NaN as quiet. -/
def quietWeight (t : FloatType) : Nat := twoTo (t.fractionBits - 1)

/-- The quiet NaN of the given sign with no payload. -/
def nan (negative : Bool) : Binary t := ofMagnitude negative (infMagnitude t + quietWeight t)

/-- The same NaN, marked as quiet. -/
def quiet (x : Binary t) : Binary t :=
  if x.bits.toNat / quietWeight t % 2 = 0 then ⟨x.bits + BitVec.ofNat _ (quietWeight t)⟩ else x

/-- Significand `m` and exponent `q` of a finite pattern: its absolute value is `m * 2 ^ q`. -/
def scaled (x : Binary t) : Nat × Int :=
  let field := x.magnitude / twoTo t.fractionBits
  let fraction := x.magnitude % twoTo t.fractionBits
  if field = 0 then (fraction, t.minExponent)
  else (fraction + twoTo t.fractionBits, t.minExponent + (field - 1 : Nat))

/-- The place of a pattern in the total order. -/
def orderKey (x : Binary t) : Int :=
  if x.isNegative then -(x.magnitude : Int) - 1 else x.magnitude

/-- The sign bit is the highest. -/
theorem bits_lt (x : Binary t) : x.bits.toNat < 2 * signWeight t :=
  Nat.lt_of_lt_of_eq x.bits.isLt (by cases t <;> decide)

/-- A pattern is its magnitude and its sign bit. -/
theorem magnitude_add_sign (x : Binary t) :
    x.magnitude + (if x.isNegative then signWeight t else 0) = x.bits.toNat := by
  have hx := x.bits_lt
  unfold magnitude isNegative
  by_cases h : signWeight t ≤ x.bits.toNat
  · have hmod : x.bits.toNat % signWeight t = x.bits.toNat - signWeight t :=
      (Nat.mod_eq_sub_mod h).trans (Nat.mod_eq_of_lt (by omega))
    simp only [h, decide_true, ↓reduceIte, hmod]
    omega
  · have hmod : x.bits.toNat % signWeight t = x.bits.toNat := Nat.mod_eq_of_lt (by omega)
    simp only [h, decide_false, Bool.false_eq_true, ↓reduceIte, hmod]
    omega

/-- **The total order tells different patterns apart.** Keys of one sign differ by the magnitude,
and the two zeros have the keys `0` and `-1`. -/
theorem orderKey_injective {a b : Binary t} (h : a.orderKey = b.orderKey) : a = b := by
  have ha := a.magnitude_add_sign
  have hb := b.magnitude_add_sign
  apply ext
  apply BitVec.eq_of_toNat_eq
  unfold orderKey at h
  cases hs : a.isNegative <;> cases hs' : b.isNegative <;>
    simp only [hs, hs', Bool.false_eq_true, ↓reduceIte] at h ha hb <;> omega

/-- The absolute value: the sign bit cleared. -/
def abs (x : Binary t) : Binary t := ofMagnitude false x.magnitude

/-- Strictly below zero as a number. -/
def isBelowZero (x : Binary t) : Bool := x.isNegative && !x.isZero && !x.isNan

end Binary

end Tabular
