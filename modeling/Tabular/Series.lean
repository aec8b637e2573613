import Tabular.Value

/-!
# Series

A series is a data type with rows of that type: the values of a column without its name and
metadata.

Two counts of nulls live side by side. The *stored* count, `nullCount`, is what a series of the
null type does not have: its rows need no marks, so the count is zero. Whether a row *is* null,
`isNullAt`, is what the rows say.
-/

namespace Tabular

/-- Rows of one data type. -/
structure Series where
  dtype : DataType
  rows : List (Option dtype.Value)

namespace Series

/-- The number of rows. -/
def length (s : Series) : Nat := s.rows.length

/-- The series with no rows. -/
def empty (d : DataType) : Series := ⟨d, []⟩

/-- A series of nulls. -/
def nulls (d : DataType) (n : Nat) : Series := ⟨d, List.replicate n none⟩

/-- A series of one row. -/
def single (d : DataType) (row : Option d.Value) : Series := ⟨d, [row]⟩

/-- A series of one signed 64-bit integer. -/
def ofInt (i : Int) : Series := single .int64 (some (FixedInt.wrap .int64 i))

/-- A Boolean series. -/
def ofFlags (flags : List (Option Bool)) : Series := ⟨.boolean, flags⟩

/-- The stored number of nulls. A series of the null type stores none. -/
def nullCount (s : Series) : Nat :=
  match s.dtype, s.rows with
  | .null, _ => 0
  | _, rows => rows.countP Option.isNone

/-- Which rows are marked as values. In a series of the null type no row is marked as null. -/
def marked (s : Series) : List Bool :=
  match s.dtype, s.rows with
  | .null, rows => rows.map fun _ ↦ true
  | _, rows => rows.map Option.isSome

/-- The rows at the given places; no place, or one outside the series, gives a null. -/
def take (s : Series) (places : List (Option Nat)) : Series :=
  let rows := s.rows.toArray
  ⟨s.dtype, places.map fun p ↦ (p.bind fun i ↦ rows[i]?).join⟩

/-- The rows at the given places. -/
def select (s : Series) (places : List Nat) : Series := s.take (places.map some)

/-- The rows from place `i` on, at most `n` of them. -/
def window (s : Series) (i n : Nat) : Series := ⟨s.dtype, (s.rows.drop i).take n⟩

/-- The rows as those of type `d`, if that is their type. -/
def rowsAs? (s : Series) (d : DataType) : Option (List (Option d.Value)) :=
  if h : s.dtype = d then some (h ▸ s.rows) else none

/-- A series of length one stands for any number of rows; other lengths must fit. -/
def broadcast (s : Series) (n : Nat) : Outcome Series :=
  if s.length = n then .ok s
  else
    match s.rows with
    | [row] => .ok ⟨s.dtype, List.replicate n row⟩
    | _ => invalid (.broadcast s.length n)

end Series

end Tabular
