import Tabular.Series.Sort

/-!
# Distinct rows, membership and groups

Rows of one or more key series are told apart by equality of their values, null being equal to
null. Key order is ascending in every key, with nulls first.

Which of several equal rows is kept is found in one pass over the places, which notes for each kind
of row where it was met first and last and how often.
-/

namespace Tabular

/-- Which of several equal rows is kept. -/
inductive Keep where
  | first
  | last
  /-- Only rows without an equal one. -/
  | none
deriving DecidableEq, Repr

/-- The rows of one kind that were met: the places of the first and of the last of them, and their
number. -/
structure Sighting where
  first : Nat
  last : Nat
  count : Nat
deriving DecidableEq, Repr

/-- The place that is kept of the rows of one kind, if any of them is. -/
def Keep.place? (keep : Keep) (seen : Sighting) : Option Nat :=
  match keep with
  | .first => some seen.first
  | .last => some seen.last
  | .none => if seen.count = 1 then some seen.first else Option.none

namespace Series

/-- Equality of the rows at two places. -/
def samePlaces (s : Series) : Nat → Nat → Bool :=
  let rows := s.rows.toArray
  fun i j ↦ decide (rows[i]?.join = rows[j]?.join)

/-- The number of rows of key series, which must agree. -/
def keyRows (keys : List Series) : Outcome Nat :=
  match keys with
  | [] => .ok 0
  | first :: rest =>
    if rest.any fun s ↦ s.length ≠ first.length then kernelFault .keyLengths
    else .ok first.length

/-- Equality of the rows of all keys at two places. -/
def sameRows (keys : List Series) : Nat → Nat → Bool :=
  let tests := keys.map samePlaces
  fun i j ↦ tests.all fun same ↦ same i j

/-- The order of the rows of all keys at two places. -/
def compareKeys (keys : List Series) : Nat → Nat → Ordering :=
  compareBy (keys.map fun s ↦ s.comparePlaces ⟨false, false⟩)

/-- Enters a place with the rows that it equals, or as the first row of its kind. -/
def see (same : Nat → Nat → Bool) (i : Nat) : List Sighting → List Sighting
  | [] => [⟨i, i, 1⟩]
  | seen :: rest =>
    if same seen.first i then { seen with last := i, count := seen.count + 1 } :: rest
    else seen :: see same i rest

/-- The kinds of the rows at the places `0, …, n - 1`. -/
def sightings (same : Nat → Nat → Bool) (n : Nat) : List Sighting :=
  (List.range n).foldl (fun seen i ↦ see same i seen) []

/-- The places among `0, …, n - 1` that are kept, ascending. -/
def distinctPlaces (same : Nat → Nat → Bool) (keep : Keep) (n : Nat) : List Nat :=
  let kept := (sightings same n).filterMap keep.place?
  (List.range n).filter kept.contains

/-- The places of the distinct rows of the keys, ascending. -/
def distinctIndices (keys : List Series) (keep : Keep) : Outcome (List Nat) := do
  .ok (distinctPlaces (sameRows keys) keep (← keyRows keys))

/-- Flags that have `value` at the places and its negation elsewhere. -/
def scatterFlags (n : Nat) (places : List Nat) (value : Bool) : List Bool :=
  (List.range n).map fun i ↦ if places.contains i then value else !value

/-- The places of the first row of each kind. -/
def firstPlaces (s : Series) : List Nat := distinctPlaces s.samePlaces .first s.length

/-- The number of distinct rows; null counts as one when present. -/
def countDistinct (s : Series) : Nat := (s.rows.foldl (fun kinds row ↦ kinds.insert row) []).length

/-- The distinct rows, in order of first appearance or in key order. -/
def unique (s : Series) (maintainOrder : Bool) : Series :=
  let firsts := s.firstPlaces
  let cmp := compareKeys [s]
  s.select <|
    if maintainOrder then firsts else firsts.mergeSort fun i j ↦ cmp i j != .gt

/-- For each row of the series, whether the haystack holds it; null for a null row. In a series of
the null type every row counts as a value. -/
def isIn (s haystack : Series) : Outcome (List (Option Bool)) :=
  match haystack.rowsAs? s.dtype with
  | none => invalid (.membership s.dtype haystack.dtype)
  | some rows =>
    let values := ((rows.zip haystack.marked).filter (·.2)).map (·.1)
    .ok <| (s.rows.zip s.marked).map fun (row, isValue) ↦
      if isValue then some (decide (row ∈ values)) else none

/-- Adds a place to the group that it equals a member of, or as a new group at the end. -/
def addToGroups (same : Nat → Nat → Bool) (i : Nat) : List (List Nat) → List (List Nat)
  | [] => [[i]]
  | group :: rest =>
    if (group.head?.map fun j ↦ same j i).getD false then (group ++ [i]) :: rest
    else group :: addToGroups same i rest

/-- The places `0, …, n - 1` in groups, in order of first appearance. -/
def groupPlaces (same : Nat → Nat → Bool) (n : Nat) : List (List Nat) :=
  (List.range n).foldl (fun groups i ↦ addToGroups same i groups) []

/-- The rows of the keys in groups of equal rows, in order of first appearance or in key order.
Without keys there is one group. -/
def groupRows (keys : List Series) (sorted : Bool) : Outcome (List (List Nat)) := do
  let n ← keyRows keys
  match keys with
  | [] => .ok [[]]
  | keys =>
    let groups := groupPlaces (sameRows keys) n
    let cmp := compareKeys keys
    .ok <|
      if sorted then groups.mergeSort fun g h ↦ cmp (g.headD 0) (h.headD 0) != .gt else groups

/-- The first place of every group. -/
def representatives (groups : List (List Nat)) : List Nat := groups.filterMap List.head?

end Series

end Tabular
