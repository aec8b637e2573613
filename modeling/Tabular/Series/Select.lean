import Tabular.Conversion.Cast

/-!
# Selecting rows

Gathering rows by their places, keeping rows by a mask, filling nulls, and choosing between two
series row by row.
-/

namespace Tabular

/-- The place that an index means among `n` rows; a negative one counts from the end. -/
def placeOf (n : Nat) (i : Int) : Nat := (if i < 0 then i + n else i).toNat

/-- The elements at the places where the mask is true. A mask may end early. -/
def keepWhere {α : Type} : List α → List (Option Bool) → List α
  | a :: as, m :: ms => if m = some true then a :: keepWhere as ms else keepWhere as ms
  | _, _ => []

namespace Series

/-- The rows at the indices, which count from the end when negative. Every index must lie within
the series; null indices give null rows. -/
def gather (s indices : Series) : Outcome Series :=
  if indices.dtype.isInteger then do
    let rows ← indices.convertRows .int64
    let valid := rows.filterMap (Option.map FixedInt.toInt)
    match valid.min?, valid.max? with
    | some least, some greatest =>
      if least < -(s.length : Int) ∨ (s.length : Int) ≤ greatest then
        .error (.outOfBounds least greatest s.length)
      else .ok (s.take (rows.map (Option.map fun i ↦ placeOf s.length i.toInt)))
    | _, _ => .ok (nulls s.dtype rows.length)
  else invalid (.gatherIndices indices.dtype)

/-- The rows at which the mask is true. The mask may be shorter than the series, not longer. -/
def keep (s : Series) (mask : List (Option Bool)) : Outcome Series :=
  if s.length < mask.length then kernelFault .maskLength
  else .ok ⟨s.dtype, keepWhere s.rows mask⟩

/-- The rows that are not null; a series that stores no nulls is unchanged. -/
def dropNulls (s : Series) : Series :=
  if s.nullCount = 0 then s else ⟨s.dtype, s.rows.filter Option.isSome⟩

/-- The rows of a series of `n` rows or of one row that stands for all. -/
def rowsFor {α : Type} (rows : List α) (n : Nat) : Outcome (List α) :=
  if rows.length = n then .ok rows
  else
    match rows with
    | [row] => .ok (List.replicate n row)
    | rows => invalid (.rowCount rows.length n)

/-- The series with its nulls replaced by the rows of `fill`; one that stores no nulls is
unchanged. -/
def fillNull (s fill : Series) : Outcome Series :=
  if s.nullCount = 0 then .ok s
  else do
    let rows ← rowsFor (← fill.convertRows s.dtype) s.length
    .ok ⟨s.dtype, List.zipWith (fun row new ↦ if row.isNone then new else row) s.rows rows⟩

/-- The rows of `truthy` where the mask is true and those of `falsy` elsewhere, in the type of
`truthy`. -/
def choose (mask truthy falsy : Series) : Outcome Series := do
  let n := max mask.length (max truthy.length falsy.length)
  let mask ← mask.broadcast n
  match mask.rowsAs? .boolean with
  | none => invalid .ternaryPredicate
  | some flags =>
    let other ← falsy.convertRows truthy.dtype
    let yes ← rowsFor truthy.rows n
    let no ← rowsFor other n
    .ok ⟨truthy.dtype,
      List.zipWith (fun flag (row : _ × _) ↦ if flag = some true then row.1 else row.2) flags
        (yes.zip no)⟩

end Series

end Tabular
