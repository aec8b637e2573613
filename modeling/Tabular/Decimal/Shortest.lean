import Tabular.Binary.Rounding

/-!
# Shortest decimals that read back

Among the decimals that round to a given floating-point number, `shortest` finds one with the
fewest digits and, of those, the nearest to the number. An exact tie is left to the caller.

The decimals that round to `m * 2 ^ q` fill an interval; its ends belong to it when `m` is even.
If a point of the grid of multiples of `10 ^ s` lies in the interval, then so does one of the two
grid neighbours of the number, so only these are tried, on finer and finer grids.
-/

namespace Tabular

/-- Where an exact tie between two decimals goes. -/
inductive Tie where
  | toEven
  | up
deriving DecidableEq, Repr

/-- The decimal `digits * 10 ^ exponent`. -/
structure Decimal where
  digits : Nat
  exponent : Int
deriving DecidableEq, Repr, Inhabited

namespace Decimal

/-- The number of decimal digits of a positive number. -/
def digitCount (n : Nat) : Nat := (Nat.toDigits 10 n).length

/-- The `k` with `10 ^ (k - 1) ≤ num / den < 10 ^ k`. -/
def ratioLog10 (num den : Nat) : Int :=
  if den ≤ num then digitCount (num / den)
  else
    let c := digitCount (den / num)
    if den ≤ num * tenTo (c - 1) then 2 - c else 1 - c

/-- The number and the ends of its rounding interval, as numerators over one denominator. -/
structure Interval where
  low : Nat
  value : Nat
  high : Nat
  den : Nat
  closed : Bool

/-- The interval of reals that round to the finite, positive number `x`. -/
def Interval.ofBinary {t : FloatType} (x : Binary t) : Interval :=
  let (m, q) := x.scaled
  let narrow := decide (m = twoTo t.fractionBits ∧ t.minExponent < q)
  let low := 4 * m - if narrow then 1 else 2
  let scale := if 2 ≤ q then twoTo (q - 2).toNat else 1
  ⟨low * scale, 4 * m * scale, (4 * m + 2) * scale,
    if 2 ≤ q then 1 else twoTo (2 - q).toNat, m % 2 == 0⟩

/-- Whether a number with quotient `below` and remainder `rest` by the grid unit is nearer to the
grid point above it. -/
def prefersAbove (tie : Tie) (below rest unit : Nat) : Bool :=
  if 2 * rest < unit then false
  else if unit < 2 * rest then true
  else tie == .up || below % 2 == 1

/-- The best of the two neighbours of the number on the grid of multiples of `10 ^ s`. -/
def Interval.onGrid? (i : Interval) (tie : Tie) (s : Int) : Option Decimal :=
  let up := if 0 ≤ s then 1 else tenTo (-s).toNat
  let unit := i.den * if 0 ≤ s then tenTo s.toNat else 1
  let inside (n : Nat) : Bool :=
    if i.closed then decide (i.low * up ≤ n * unit ∧ n * unit ≤ i.high * up)
    else decide (i.low * up < n * unit ∧ n * unit < i.high * up)
  let below := i.value * up / unit
  let rest := i.value * up % unit
  let above := below + 1
  let nearest := if prefersAbove tie below rest unit then above else below
  if inside below && inside above then some ⟨nearest, s⟩
  else if inside below then some ⟨below, s⟩
  else if inside above then some ⟨above, s⟩
  else none

/-- The decimal without trailing zero digits. -/
def trim (fuel : Nat) (d : Decimal) : Decimal :=
  match fuel with
  | 0 => d
  | fuel + 1 => if d.digits ≠ 0 ∧ d.digits % 10 = 0 then trim fuel ⟨d.digits / 10, d.exponent + 1⟩
    else d

/-- The shortest decimal that rounds to the finite, positive number `x`, nearest to it. -/
def shortest {t : FloatType} (tie : Tie) (x : Binary t) : Decimal :=
  let i := Interval.ofBinary x
  let k := ratioLog10 i.value i.den
  let found := (List.range 17).findSome? fun n ↦ i.onGrid? tie (k - (n + 1 : Nat))
  trim 17 (found.getD ⟨0, 0⟩)

end Decimal

end Tabular
