import Tabular.DataType

/-!
# Fixed-width integers

A `FixedInt t` is a mathematical integer with a proof that the type `t` can hold it. Arithmetic is
done on the mathematical values and brought back into range by `wrap`, which reduces modulo `2 ^
t.width`; `ofInt?` instead refuses what does not fit.

Both leave alone what fits: wrapping a value changes nothing (`wrap_toInt`), and an accepted integer
is stored exactly (`toInt_ofInt?`, `ofInt?_toInt`). That a type holds as many integers as its bits
have patterns (`IntType.max_sub_min`) is what makes the reduction land in the range.
-/

namespace Tabular

/-- An integer within the range of the type `t`. -/
structure FixedInt (t : IntType) where
  /-- The mathematical value. -/
  toInt : Int
  min_le : t.min ≤ toInt
  le_max : toInt ≤ t.max
deriving DecidableEq

namespace FixedInt

variable {t : IntType}

/-- A fixed-width integer is its mathematical value. -/
theorem ext {a b : FixedInt t} (h : a.toInt = b.toInt) : a = b := by
  cases a; cases b; cases h; rfl

/-- Equality is that of the mathematical values. -/
theorem ext_iff {a b : FixedInt t} : a = b ↔ a.toInt = b.toInt :=
  ⟨fun h ↦ h ▸ rfl, ext⟩

/-- The value of an integer that fits, nothing otherwise. -/
def ofInt? (t : IntType) (i : Int) : Option (FixedInt t) :=
  if h : t.min ≤ i ∧ i ≤ t.max then some ⟨i, h.1, h.2⟩ else none

/-- An accepted integer is stored exactly. -/
theorem toInt_ofInt? {i : Int} {a : FixedInt t} (h : ofInt? t i = some a) : a.toInt = i := by
  unfold ofInt? at h
  split at h
  · cases h; rfl
  · cases h

/-- A value that fits is accepted as itself. -/
@[simp]
theorem ofInt?_toInt (a : FixedInt t) : ofInt? t a.toInt = some a := by
  unfold ofInt?
  rw [dif_pos ⟨a.min_le, a.le_max⟩]

/-- Exactly the integers of the range are accepted. -/
@[simp]
theorem isSome_ofInt? {i : Int} : (ofInt? t i).isSome = true ↔ t.min ≤ i ∧ i ≤ t.max := by
  unfold ofInt?
  split <;> simp [*]

/-- Reduction modulo `2 ^ t.width` into the range of `t`. -/
def wrapInt (t : IntType) (i : Int) : Int := (i - t.min) % (twoTo t.width : Int) + t.min

/-- The reduction lands in the range of the type. -/
theorem wrapInt_bounds (t : IntType) (i : Int) : t.min ≤ wrapInt t i ∧ wrapInt t i ≤ t.max := by
  have hpos : (0 : Int) < twoTo t.width := by exact_mod_cast twoTo_pos t.width
  have hlow := Int.emod_nonneg (i - t.min) (Int.ne_of_gt hpos)
  have hhigh := Int.emod_lt_of_pos (i - t.min) hpos
  have hcount := t.max_sub_min
  unfold wrapInt
  omega

/-- The integer reduced modulo `2 ^ t.width`. -/
def wrap (t : IntType) (i : Int) : FixedInt t :=
  ⟨wrapInt t i, (wrapInt_bounds t i).1, (wrapInt_bounds t i).2⟩

/-- Wrapping a value that fits changes nothing. -/
@[simp]
theorem wrap_toInt (a : FixedInt t) : wrap t a.toInt = a := by
  apply ext
  have hlow := a.min_le
  have hhigh := a.le_max
  have hcount := t.max_sub_min
  have hmod : (a.toInt - t.min) % (twoTo t.width : Int) = a.toInt - t.min :=
    Int.emod_eq_of_lt (by omega) (by omega)
  simp only [wrap, wrapInt, hmod]
  omega

instance : Inhabited (FixedInt t) := ⟨wrap t 0⟩

/-- The two's complement pattern. -/
def toBits (a : FixedInt t) : BitVec t.width := BitVec.ofInt t.width a.toInt

/-- The value of a two's complement pattern. -/
def ofBits (b : BitVec t.width) : FixedInt t := wrap t b.toNat

/-! ### Arithmetic, modulo `2 ^ t.width` -/

/-- Wrapping sum. -/
def add (a b : FixedInt t) : FixedInt t := wrap t (a.toInt + b.toInt)

/-- Wrapping difference. -/
def sub (a b : FixedInt t) : FixedInt t := wrap t (a.toInt - b.toInt)

/-- Wrapping product. -/
def mul (a b : FixedInt t) : FixedInt t := wrap t (a.toInt * b.toInt)

/-- Wrapping absolute value: the least signed value is its own. -/
def abs (a : FixedInt t) : FixedInt t := if a.toInt < 0 then wrap t (-a.toInt) else a

/-- Wrapping quotient toward zero. -/
def div (a b : FixedInt t) : FixedInt t := wrap t (a.toInt.tdiv b.toInt)

/-- Remainder of the quotient toward zero: zero, or of the dividend's sign. -/
def rem (a b : FixedInt t) : FixedInt t := wrap t (a.toInt.tmod b.toInt)

/-- Whether a remainder is on the other side of zero than the divisor. -/
def opposes (rem b : FixedInt t) : Bool :=
  decide (rem.toInt ≠ 0) && decide (rem.toInt < 0) != decide (b.toInt < 0)

/-- Quotient toward zero; nothing for a zero divisor. -/
def truncDiv? (a b : FixedInt t) : Option (FixedInt t) :=
  if b.toInt = 0 then none else some (a.div b)

/-- Quotient toward negative infinity; nothing for a zero divisor. Where the remainder of the
quotient toward zero opposes the divisor, that quotient is one too great. -/
def floorDiv? (a b : FixedInt t) : Option (FixedInt t) :=
  if b.toInt = 0 then none
  else if (a.rem b).opposes b then some ((a.div b).sub (wrap t 1))
  else some (a.div b)

/-- Remainder with the sign of the divisor; nothing for a zero divisor. -/
def floorMod? (a b : FixedInt t) : Option (FixedInt t) :=
  if b.toInt = 0 then none
  else if (a.rem b).opposes b then some ((a.rem b).add b)
  else some (a.rem b)

/-! ### Bitwise operations -/

/-- Bitwise conjunction. -/
def bitAnd (a b : FixedInt t) : FixedInt t := ofBits (a.toBits &&& b.toBits)

/-- Bitwise disjunction. -/
def bitOr (a b : FixedInt t) : FixedInt t := ofBits (a.toBits ||| b.toBits)

/-- Bitwise exclusive disjunction. -/
def bitXor (a b : FixedInt t) : FixedInt t := ofBits (a.toBits ^^^ b.toBits)

/-- Bitwise complement. -/
def bitNot (a : FixedInt t) : FixedInt t := wrap t (-a.toInt - 1)

end FixedInt

end Tabular
