import Tabular.Binary.Arithmetic
import Tabular.Decimal.Text
import Tabular.Error

/-!
# Statistics of floating-point numbers

Sums, means, variances and quantiles of lists of numbers. Floating-point addition is not
associative, so the order of additions is part of each definition: `total` adds from the left, and
`laneTotal` deals the numbers out to lanes, as one deals cards, and adds the lanes' sums in pairs.
-/

namespace Tabular

/-- How a quantile between two ranks is chosen. -/
inductive Interpolation where
  | nearest
  | higher
  | lower
  | midpoint
  | linear
deriving DecidableEq, Repr, Inhabited

namespace Interpolation

/-- The name in printed expressions. -/
def printedName : Interpolation → String
  | nearest => "Nearest"
  | higher => "Higher"
  | lower => "Lower"
  | midpoint => "Midpoint"
  | linear => "Linear"

end Interpolation

namespace Statistics

/-- A double-precision number. -/
abbrev Double := Binary .double

/-- The sum from the left. The empty sum is `-0.0`, which is neutral for every number. -/
def total (xs : List Double) : Double :=
  xs.foldl Binary.add (Binary.ofMagnitude true 0)

/-- The sum of one lane: the numbers at the places `lane`, `lane + lanes`, …, nulls left out. -/
def laneSum (lanes lane : Nat) (xs : List (Option Double)) : Double :=
  (xs.zipIdx.filter fun (_, i) ↦ i % lanes = lane).foldl
    (fun sum (x, _) ↦ match x with
      | some x => sum.add x
      | none => sum) Binary.zero

/-- The sum of the numbers, in four lanes if there are no nulls and in two otherwise. -/
def laneTotal (xs : List (Option Double)) : Double :=
  if xs.all Option.isNone then Binary.zero
  else if xs.all Option.isSome then
    ((laneSum 4 0 xs).add (laneSum 4 2 xs)).add ((laneSum 4 1 xs).add (laneSum 4 3 xs))
  else (laneSum 2 0 xs).add (laneSum 2 1 xs)

/-- The number of elements as a number. -/
def count (xs : List Double) : Double := Binary.ofInt xs.length

/-- The arithmetic mean. -/
def mean? (xs : List Double) : Option Double :=
  if xs.isEmpty then none else some ((total xs).div (count xs))

/-- The sum of squared deviations from the mean over `n - ddof`, if that is positive. -/
def variance? (ddof : Nat) (xs : List Double) : Option Double :=
  if xs.length ≤ ddof then none
  else
    let mean := (total xs).div (count xs)
    let squares := xs.map fun x ↦ (x.sub mean).mul (x.sub mean)
    some ((total squares).div (Binary.ofInt (xs.length - ddof : Nat)))

/-- The integers around a number that is not negative: below, nearest with ties to even, above. -/
def ranksAround (x : Double) : Nat × Nat × Nat :=
  let (m, q) := x.scaled
  let num := m * twoTo q.toNat
  let den := twoTo (-q).toNat
  (num / den, roundDiv num den, (num + den - 1) / den)

/-- Whether a number lies between zero and one. -/
def isFraction (q : Double) : Bool :=
  !q.isNan && !q.isBelowZero && q.magnitude ≤ (Binary.ofInt 1 : Double).magnitude

/-- The numbers in ascending total order. -/
def sorted (xs : List Double) : List Double := xs.mergeSort fun a b ↦ a.orderKey ≤ b.orderKey

/-- The `q`-quantile of the numbers, for a fraction `q`. -/
def quantile? (q : Double) (interpolation : Interpolation) (xs : List Double) : Option Double :=
  match sorted xs with
  | [] => none
  | first :: rest =>
    let ordered := first :: rest
    let place := q.mul (Binary.ofInt (ordered.length - 1 : Nat))
    let (below, nearest, above) := ranksAround place
    let low := ordered.getD below first
    let high := ordered.getD above first
    some <|
      match interpolation with
      | .lower => low
      | .higher => high
      | .nearest => ordered.getD nearest first
      | .midpoint => (low.add high).div (Binary.ofInt 2)
      | .linear => low.add ((high.sub low).mul (place.sub place.floor))

end Statistics

end Tabular
