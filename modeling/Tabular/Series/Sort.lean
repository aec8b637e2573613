import Tabular.Series

/-!
# Sorting series

The permutation that sorts rows by one or more keys, each in its own direction and with its nulls
where the key wants them.

There are two kernels. One sorts the places of a single series; the other one sorts by several
columns, of which the first that tells two places apart decides. Both put places in order
(`PlaceSort`), and where they leave places that compare as equal is their own matter. A stable sort
takes the row number for its last column, and then no two places compare as equal.

What is proved of the kernels is therefore proved of any `PlaceSort`, and there is one: merging puts
places in order (`PlaceSort.merging`), since the comparison of two places is total and transitive.

Rows of the null type have no order. The kernel for a single series ranks the items of lists, and so
it does not take lists of lists or of text in the view layout; the kernel for columns compares lists
item by item and takes whatever the other one takes (`DataType.isOrdered_of_isRanked`).

Row numbers are natural numbers here; the kernels number fewer than `2 ^ 32` rows.
-/

namespace Tabular

namespace DataType

/-- Whether values of the type can be compared. -/
def isOrdered : DataType → Bool
  | null => false
  | list item => item.isOrdered
  | _ => true

/-- Whether a single series of the type can be sorted: the items of lists are ranked, which is done
for plain types other than text in the view layout. -/
def isRanked : DataType → Bool
  | null => false
  | list null => false
  | list (text .utf8View) => false
  | list (list _) => false
  | _ => true

/-- What can be ranked can be compared. -/
theorem isOrdered_of_isRanked {d : DataType} (h : d.isRanked = true) : d.isOrdered = true := by
  cases d with
  | null => cases h
  | list item => cases item <;> first | rfl | cases h
  | _ => rfl

end DataType

namespace SortKey

/-- The order of two rows under the key. -/
def compareRows (k : SortKey) (d : DataType) (a b : Option d.Value) : Ordering :=
  match k.order with
  | .ascending => Tabular.compareRows k.nullOrder (d.compareValues k.nullOrder) a b
  | .descending => (Tabular.compareRows k.nullOrder (d.compareValues k.nullOrder) a b).swap

end SortKey

namespace Series

/-- The order of two places of a series under a key. -/
def comparePlaces (s : Series) (k : SortKey) : Nat → Nat → Ordering :=
  let rows := s.rows.toArray
  fun i j ↦ k.compareRows s.dtype (rows[i]?.join) (rows[j]?.join)

end Series

/-- The order by the first comparison that tells apart. -/
def compareBy {α : Type} (cmps : List (α → α → Ordering)) (a b : α) : Ordering :=
  cmps.foldr (fun cmp rest ↦ (cmp a b).then rest) .eq

/-- A way to put the places `0, …, n - 1` in the order of a comparison. Nothing is said of places
that compare as equal. -/
structure PlaceSort where
  /-- The places in order. -/
  places : (Nat → Nat → Ordering) → Nat → List Nat
  perm : ∀ cmp n, (places cmp n).Perm (List.range n)
  ordered : ∀ cmp n, Std.TransCmp cmp →
    (places cmp n).Pairwise fun i j ↦ (cmp i j).isLE = true

/-- Sorting by a total preorder gives a list in its order. -/
theorem pairwise_mergeSort_isLE {α : Type} (cmp : α → α → Ordering) [Std.TransCmp cmp]
    (l : List α) :
    (l.mergeSort fun a b ↦ (cmp a b).isLE).Pairwise fun a b ↦ (cmp a b).isLE = true := by
  refine List.pairwise_mergeSort (fun _ _ _ ↦ Std.TransCmp.isLE_trans) (fun a b ↦ ?_) l
  have hswap : (cmp a b).isGE = true ↔ (cmp b a).isLE = true := Std.OrientedCmp.isGE_iff_isLE
  rw [Bool.or_eq_true, ← hswap]
  cases cmp a b <;> decide

/-- Sorting by merging. Places that compare as equal keep their order. -/
def PlaceSort.merging : PlaceSort where
  places cmp n := (List.range n).mergeSort fun i j ↦ (cmp i j).isLE
  perm _ _ := List.mergeSort_perm _ _
  ordered cmp _ _ := pairwise_mergeSort_isLE cmp _

namespace Series

/-- The places of a series in the order of a key. -/
def sortRanked (s : Series) (key : SortKey) (how : PlaceSort) : Outcome (List Nat) :=
  if s.dtype.isRanked then .ok (how.places (s.comparePlaces key) s.length)
  else kernelFault (.noOrder s.dtype)

/-- The comparisons of places by columns, and in the end by their numbers if the sort is stable. -/
def columnOrders (columns : List (Series × SortKey)) (stable : Bool) :
    List (Nat → Nat → Ordering) :=
  columns.map (fun (s, k) ↦ s.comparePlaces k) ++ if stable then [Ord.compare] else []

/-- The places `0, …, n - 1` in the order of columns of `n` rows. -/
def sortColumns (n : Nat) (columns : List (Series × SortKey)) (stable : Bool) (how : PlaceSort) :
    Outcome (List Nat) :=
  if columns.any fun (s, _) ↦ s.length ≠ n then kernelFault .keyLengths
  else
    match columns.find? fun (s, _) ↦ !s.dtype.isOrdered with
    | some (s, _) => kernelFault (.noOrder s.dtype)
    | none => .ok (how.places (compareBy (columnOrders columns stable)) n)

/-- The permutation that sorts rows by the keys. -/
def sortIndices (keys : List Series) (options : List SortKey) (stable : Bool := true)
    (how : PlaceSort := .merging) : Outcome (List Nat) :=
  match keys with
  | [] => invalid .noSortKey
  | first :: _ =>
    if keys.length ≠ options.length then invalid (.sortOptions keys.length options.length)
    else
      match keys.zip options, stable with
      | [(s, key)], false => s.sortRanked key how
      | columns, stable => sortColumns first.length columns stable how

/-- By one key, rows are sorted if their type can be ranked. -/
theorem sortIndices_singleton (s : Series) (k : SortKey) (how : PlaceSort) :
    sortIndices [s] [k] false how = s.sortRanked k how :=
  rfl

/-- The series in sorted order. -/
def sort (s : Series) (key : SortKey) (stable : Bool := true) (how : PlaceSort := .merging) :
    Outcome Series := do
  .ok (s.select (← sortIndices [s] [key] stable how))

/-- The series in the order of the keys. Keys with more rows than the series name places outside it,
which is no matter if it is of the null type. -/
def sortBy (s : Series) (keys : List Series) (options : List SortKey) (stable : Bool := true)
    (how : PlaceSort := .merging) : Outcome Series := do
  let places ← sortIndices keys options stable how
  if s.dtype ≠ .null && places.any (s.length ≤ ·) then kernelFault .placeOutside
  else .ok (s.select places)

end Series

end Tabular
