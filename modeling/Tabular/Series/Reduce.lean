import Tabular.Conversion.Cast
import Tabular.Series.Distinct
import Tabular.Statistics

/-!
# Reductions

A reduction turns a series into a series of one row, so that the results for several groups can be
put together into a column. Counts are 64-bit integers, statistics are double precision, sums have
the widest type of their kind, and extrema and elements keep the type of the series.
-/

namespace Tabular

/-- A reduction of the rows of one group. -/
inductive Aggregation where
  /-- The rows as one list. -/
  | collectList
  | count (includeNulls : Bool)
  /-- The row at a place; a negative one counts from the end. -/
  | nthElement (n : Int) (includeNulls : Bool)
  | min
  | max
  | median
  | nUnique (includeNulls : Bool)
  | mean
  | sum
  | std (ddof : Nat)
  | var (ddof : Nat)
  | quantile (q : Binary .double) (interpolation : Interpolation)
deriving DecidableEq

/-- Whether the reduction collects its rows. -/
def Aggregation.isCollectList : Aggregation → Bool
  | collectList => true
  | _ => false

namespace Series

/-- The values as double-precision numbers, nulls left out. -/
def numbers (s : Series) : Outcome (List (Binary .double)) := do
  .ok ((← s.convertRows .float64).filterMap id)

/-- A double-precision statistic as a series. -/
def ofStatistic (x : Option (Binary .double)) : Series := single .float64 x

/-- The least row, or the greatest; a null if no row has a value. -/
def extremum (s : Series) (greatest : Bool) : Outcome Series :=
  match s.rows with
  | [] => .ok (nulls s.dtype 1)
  | _ => do
    let places ← s.sortRanked ⟨greatest, true⟩ .merging
    .ok (s.select (places.take 1))

/-- The row at a place counted from the start, or from the end when negative. -/
def nth (s : Series) (n : Int) (includeNulls : Bool) : Series :=
  let values := if includeNulls || s.nullCount = 0 then s
    else ⟨s.dtype, s.rows.filter Option.isSome⟩
  let i := if n < 0 then values.length + n else n
  if i < 0 ∨ (values.length : Int) ≤ i then nulls s.dtype 1 else values.window i.toNat 1

/-- The sum of the values; it is zero if there are none. -/
def sum (s : Series) : Outcome Series :=
  match s.dtype with
  | .float _ => do .ok (ofStatistic (some (Statistics.laneTotal (← s.convertRows .float64))))
  | .integer t => do
    let wide : IntType := if t.signed then .int64 else .uint64
    .ok (single (.integer wide) (some (addUp (← s.convertRows (.integer wide)))))
  | .boolean => do .ok (single .int64 (some (addUp (← s.convertRows .int64))))
  | .null => .ok (ofInt 0)
  | d => unsupported (.undefinedOver "sum" d)
where
  /-- The wrapping sum of the values. -/
  addUp {t : IntType} (rows : List (Option (FixedInt t))) : FixedInt t :=
    (rows.filterMap id).foldl FixedInt.add (FixedInt.wrap t 0)

/-- The quantile of the values. -/
def quantile (q : Binary .double) (interpolation : Interpolation) (s : Series) : Outcome Series :=
  if Statistics.isFraction q then do
    .ok (ofStatistic (Statistics.quantile? q interpolation (← s.numbers)))
  else invalid (.quantile (FloatStyle.message.format q))

/-- The number one half. -/
def half : Binary .double := Binary.ofRatio false 1 2

/-- The reduction of a series. -/
def reduce (agg : Aggregation) (s : Series) : Outcome Series :=
  match agg with
  | .collectList => .ok (single (.list s.dtype) (some s.rows))
  | .count includeNulls =>
    .ok (ofInt (if includeNulls then s.length else s.length - s.nullCount : Nat))
  | .nthElement n includeNulls => .ok (s.nth n includeNulls)
  | .min => s.extremum false
  | .max => s.extremum true
  | .median => s.quantile half .linear
  | .nUnique includeNulls =>
    .ok (ofInt (s.countDistinct - if !includeNulls && 0 < s.nullCount then 1 else 0 : Nat))
  | .mean => do .ok (ofStatistic (Statistics.mean? (← s.numbers)))
  | .sum => s.sum
  | .var ddof => do .ok (ofStatistic (Statistics.variance? ddof (← s.numbers)))
  | .std ddof => do
    .ok (ofStatistic ((Statistics.variance? ddof (← s.numbers)).map Binary.sqrt))
  | .quantile q interpolation => quantile q interpolation s

/-! ### Truth values -/

/-- Whether any row is true. Unless nulls are ignored, a null makes the answer unknown when no row
is true. -/
def any (ignoreNulls : Bool) (rows : List (Option Bool)) : Option Bool :=
  if rows.contains (some true) then some true
  else if !ignoreNulls && rows.contains none then none
  else some false

/-- Whether all rows are true. Unless nulls are ignored, a null makes the answer unknown when no row
is false. -/
def all (ignoreNulls : Bool) (rows : List (Option Bool)) : Option Bool :=
  if rows.contains (some false) then some false
  else if !ignoreNulls && rows.contains none then none
  else some true

end Series

end Tabular
