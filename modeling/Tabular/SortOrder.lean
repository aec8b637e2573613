import Tabular.Error

/-!
# Directions and places of nulls

A column is sorted in an `Order`, and its nulls compare before or after every value. Where the
nulls then stand follows from both: ascending with nulls before puts them first, and so does
descending with nulls after.

`sortOrders` turns the flags of a sort, one per key or one for all, into these terms.
-/

namespace Tabular

/-- The direction of a sorted column. -/
inductive Order where
  | ascending
  | descending
deriving DecidableEq, Repr, Inhabited

/-- The place of nulls in the order, before or after every value. -/
inductive NullOrder where
  | before
  | after
deriving DecidableEq, Repr, Inhabited

/-- Whether nulls stand first in a column sorted in the direction. -/
def NullOrder.nullsFirst : NullOrder → Order → Bool
  | before, .ascending => true
  | before, .descending => false
  | after, .ascending => false
  | after, .descending => true

/-- The direction of one sort key, and whether its nulls stand last. -/
structure SortKey where
  descending : Bool
  nullsLast : Bool
deriving DecidableEq, Repr, Inhabited

namespace SortKey

/-- The direction. -/
def order (k : SortKey) : Order := if k.descending then .descending else .ascending

/-- The place of nulls in the order that puts them where the key wants them. -/
def nullOrder (k : SortKey) : NullOrder := if k.descending = k.nullsLast then .before else .after

/-- A key in terms of first and last puts the nulls where its flag says. -/
theorem nullsFirst_nullOrder (k : SortKey) : k.nullOrder.nullsFirst k.order = !k.nullsLast := by
  obtain ⟨d, n⟩ := k
  cases d <;> cases n <;> rfl

end SortKey

/-- Flags, one per key or one for all keys. -/
def spreadFlags (flags : List Bool) (keys : Nat) (what : String) : Outcome (List Bool) :=
  if flags.length = keys then .ok flags
  else
    match flags with
    | [flag] => .ok (List.replicate keys flag)
    | _ => invalid (.flagCount keys what flags.length)

/-- The keys that the flags of a sort describe. -/
def sortKeys (descending nullsLast : List Bool) (keys : Nat) : Outcome (List SortKey) := do
  let descending ← spreadFlags descending keys "descending"
  let nullsLast ← spreadFlags nullsLast keys "nulls_last"
  .ok (List.zipWith SortKey.mk descending nullsLast)

end Tabular
