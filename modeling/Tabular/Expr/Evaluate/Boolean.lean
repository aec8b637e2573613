import Tabular.Expr.Function
import Tabular.Frame
import Tabular.Series.Combine
import Tabular.Series.Distinct
import Tabular.Series.Reduce

/-!
# Functions with Boolean results

The values of these functions on evaluated children. Finiteness is decided by the declared type of
the child where that is not floating point: such a child is not evaluated at all.
-/

namespace Tabular

namespace Column

/-- The rows as truth values, for a column that must hold them. -/
def flags (c : Column) : Outcome (List (Option Bool)) :=
  match c.series.rowsAs? .boolean with
  | some rows => .ok rows
  | none => .error (.notBoolean c.dtype)

/-- Which rows are NaNs; null where the row is marked as null. -/
def nans (c : Column) : List (Option Bool) :=
  match c.nanMask? with
  | some mask => mask
  | none => c.series.marked.map fun isValue ↦ if isValue then some false else none

/-- A predicate on the values as double-precision numbers; nulls stay null. -/
def test (p : Binary .double → Bool) (c : Column) : Outcome (List (Option Bool)) := do
  .ok ((← c.series.convertRows .float64).map (Option.map p))

/-- Flags at the rows kept of the distinct ones, or at the others. -/
def distinctFlags (c : Column) (keep : Keep) (value : Bool) : List (Option Bool) :=
  let places := Series.distinctPlaces c.series.samePlaces keep c.length
  (Series.scatterFlags c.length places value).map some

end Column

namespace BooleanFunction

/-- The columns folded by a connective from the left. -/
def fold (c : Connective) : List Column → Outcome Series
  | [] => .error (.malformed "BooleanFunction")
  | first :: rest =>
    rest.foldlM (fun total col ↦ total.combine (.logical c) .boolean col.series) first.series

/-- The comparisons with the lower and the upper bound. -/
def boundTests : ClosedInterval → Comparison × Comparison
  | .none => (.gt, .lt)
  | .left => (.ge, .lt)
  | .right => (.gt, .le)
  | .both => (.ge, .le)

/-- Whether the rows lie in a range. -/
def between (closed : ClosedInterval) (s lower upper : Series) : Outcome Series := do
  let (low, high) := boundTests closed
  let above ← s.combine (.comparison low) .boolean lower
  let below ← s.combine (.comparison high) .boolean upper
  above.combine (.logical .kleeneAnd) .boolean below

/-- Whether values of the type can be infinite or NaN: the child must then be looked at. -/
def readsChild (f : BooleanFunction) (child : DataType) : Bool :=
  match f with
  | isFinite => child.isFloating
  | isInfinite => child.isFloating
  | _ => true

/-- The value of a function whose child need not be looked at. -/
def constant (f : BooleanFunction) (rows : Nat) : Series :=
  .ofFlags (List.replicate rows (some (f == isFinite)))

/-- The value of a function of several columns or of one. -/
def onColumns (f : BooleanFunction) (columns : List Column) : Outcome Series :=
  match f, columns with
  | allHorizontal, columns => fold .kleeneAnd columns
  | anyHorizontal, columns => fold .kleeneOr columns
  | isIn, [c, haystack] => do .ok (.ofFlags (← c.series.isIn haystack.series))
  | isBetween closed, [c, lower, upper] => between closed c.series lower.series upper.series
  | any ignoreNulls, [c] => do .ok (.ofFlags [Series.any ignoreNulls (← c.flags)])
  | all ignoreNulls, [c] => do .ok (.ofFlags [Series.all ignoreNulls (← c.flags)])
  | isNull, [c] => .ok (.ofFlags (c.series.rows.map fun row ↦ some row.isNone))
  | isNotNull, [c] => .ok (.ofFlags (c.series.rows.map fun row ↦ some row.isSome))
  | isNan, [c] => .ok (.ofFlags c.nans)
  | isNotNan, [c] => .ok (.ofFlags (c.nans.map (Option.map Bool.not)))
  | isFinite, [c] => do .ok (.ofFlags (← c.test Binary.isFinite))
  | isInfinite, [c] => do .ok (.ofFlags (← c.test Binary.isInfinite))
  | isFirstDistinct, [c] => .ok (.ofFlags (c.distinctFlags .first true))
  | isLastDistinct, [c] => .ok (.ofFlags (c.distinctFlags .last true))
  | isUnique, [c] => .ok (.ofFlags (c.distinctFlags .none true))
  | isDuplicated, [c] => .ok (.ofFlags (c.distinctFlags .none false))
  | not, [c] => do .ok (.ofFlags ((← c.flags).map (Option.map Bool.not)))
  | _, _ => .error (.malformed "BooleanFunction")

end BooleanFunction

end Tabular
