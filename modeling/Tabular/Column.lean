import Tabular.Series

/-!
# Columns

A column is a series together with what is known of its order: if it is flagged as sorted, the
direction and the place of its nulls. Operations that keep the order of rows keep the flag; the
flag is not checked against the rows.
-/

namespace Tabular

/-- How a sorted column is sorted: the direction, and the place of nulls in the order. -/
structure Sortedness where
  order : Order := .ascending
  nullOrder : NullOrder := .before
deriving DecidableEq, Repr, Inhabited

namespace Sortedness

/-- The order that a sort by the key leaves. -/
def ofKey (key : SortKey) : Sortedness := ⟨key.order, key.nullOrder⟩

/-- Whether nulls stand first. -/
def nullsFirst (s : Sortedness) : Bool := s.nullOrder.nullsFirst s.order

end Sortedness

/-- A series with a claim about its order. -/
structure Column where
  series : Series
  /-- How the column is sorted, if it is flagged as sorted. -/
  sorted : Option Sortedness := none

namespace Column

/-- The data type. -/
def dtype (c : Column) : DataType := c.series.dtype

/-- The number of rows. -/
def length (c : Column) : Nat := c.series.length

/-- A column of one row can stand for any number of rows. -/
def isScalar (c : Column) : Bool := c.length = 1

/-- The column with the claim of another. -/
def sortedLike (c like : Column) : Column := { c with sorted := like.sorted }

/-- Which rows are NaNs, for columns of floating-point numbers that the library calculates with;
nulls stay null. Half precision has no mask. -/
def nanMask? (c : Column) : Option (List (Option Bool)) :=
  match c.series with
  | ⟨.float t, rows⟩ => if t.hasArithmetic then some (rows.map (Option.map Binary.isNan)) else none
  | _ => none

/-- The number of NaNs; zero for columns that have no mask of them. -/
def nanCount (c : Column) : Nat :=
  match c.nanMask? with
  | some mask => mask.count (some true)
  | none => 0

/-- The column with its NaNs replaced by nulls. The claim about the order is lost unless there are
none. -/
def maskNans (c : Column) : Column :=
  if c.nanCount = 0 then c
  else
    match c.series with
    | ⟨.float t, rows⟩ => { series := ⟨.float t, rows.map (Option.filter fun x ↦ !x.isNan)⟩ }
    | _ => c

end Column

end Tabular
