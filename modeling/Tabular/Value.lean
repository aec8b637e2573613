import Tabular.Binary.Basic
import Tabular.FixedInt
import Tabular.SortOrder

/-!
# Values of a data type

`d.Value` is the type of the values that a row of a column of type `d` can hold; a row is an
`Option d.Value`, with `none` for null. Text has the same values in all layouts, dates and times
are counts of days or ticks, and the null type has no values at all.

Every type has decidable equality and a total order. Floating-point numbers are told apart by
their bit patterns and ordered by `Binary.orderKey`; text is ordered by code points; lists are
ordered by their first difference, with nulls where the caller wants them.
-/

namespace Tabular

namespace DataType

/-- The values of a row of the type. -/
@[reducible]
def Value : DataType → Type
  | null => Empty
  | boolean => Bool
  | integer t => FixedInt t
  | float t => Binary t
  | text _ => String
  | date32 => FixedInt .int32
  | date64 => FixedInt .int64
  | timestamp _ _ => FixedInt .int64
  | duration _ => FixedInt .int64
  | list item => List (Option item.Value)

/-- Equality of values can be decided. -/
def decEqValue : (d : DataType) → DecidableEq d.Value
  | null => fun v ↦ nomatch v
  | boolean => inferInstanceAs (DecidableEq Bool)
  | integer t => inferInstanceAs (DecidableEq (FixedInt t))
  | float t => inferInstanceAs (DecidableEq (Binary t))
  | text _ => inferInstanceAs (DecidableEq String)
  | date32 => inferInstanceAs (DecidableEq (FixedInt .int32))
  | date64 => inferInstanceAs (DecidableEq (FixedInt .int64))
  | timestamp _ _ => inferInstanceAs (DecidableEq (FixedInt .int64))
  | duration _ => inferInstanceAs (DecidableEq (FixedInt .int64))
  | list item =>
    haveI := decEqValue item
    inferInstanceAs (DecidableEq (List (Option item.Value)))

instance (d : DataType) : DecidableEq d.Value := decEqValue d

end DataType

/-- The order of rows: values by `cmp`, nulls before or after them. -/
def compareRows {α : Type} (nulls : NullOrder) (cmp : α → α → Ordering) :
    Option α → Option α → Ordering
  | none, none => .eq
  | none, some _ => if nulls = .before then .lt else .gt
  | some _, none => if nulls = .before then .gt else .lt
  | some a, some b => cmp a b

/-- The order of lists by their first difference; a list comes after its beginnings. -/
def compareLists {α : Type} (cmp : α → α → Ordering) : List α → List α → Ordering
  | [], [] => .eq
  | [], _ :: _ => .lt
  | _ :: _, [] => .gt
  | a :: as, b :: bs => (cmp a b).then (compareLists cmp as bs)

namespace DataType

/-- The total order of values; `nulls` places the nulls inside lists. -/
def compareValues (nulls : NullOrder) : (d : DataType) → d.Value → d.Value → Ordering
  | null, v, _ => nomatch v
  | boolean, a, b => compare a b
  | integer _, a, b => compare a.toInt b.toInt
  | float _, a, b => compare a.orderKey b.orderKey
  | text _, a, b => compareLists compare (a.toList.map Char.toNat) (b.toList.map Char.toNat)
  | date32, a, b => compare a.toInt b.toInt
  | date64, a, b => compare a.toInt b.toInt
  | timestamp _ _, a, b => compare a.toInt b.toInt
  | duration _, a, b => compare a.toInt b.toInt
  | list item, a, b => compareLists (compareRows nulls (compareValues nulls item)) a b

end DataType

end Tabular
