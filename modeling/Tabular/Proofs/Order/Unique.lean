import Mathlib.Data.List.Destutter
import Tabular.Proofs.Order.Flags
import Tabular.Proofs.Rows.Distinct

/-!
# Unique rows

The unique rows of a series come in one of two orders: as they are met first (`Series.firstRows`),
or by key. Two operations that have nothing to do with one another give the second order, a sort of
the places that were kept and a sort of the series that drops what repeats the row before it. And a
series that is sorted by key already keeps its order, so that nothing needs to be sorted.

That these agree (`Expr.values_unique_eq`) has one reason. Rows that compare as equal are equal, and
so the rows of a series, each of them once (`Series.HoldsOnce`), have only one order in which they
are sorted (`Series.HoldsOnce.eq_of_sortedAs`).
-/

namespace Tabular

namespace Series

variable {s t u : Series} {claim : Sortedness}

/-- The rows that no equal row stands before, in their order. -/
def firstRows (s : Series) : List (Option s.dtype.Value) :=
  ((List.range s.length).filter fun i ↦ ∀ j < i, s.valueAt j ≠ s.valueAt i).map s.valueAt

/-- The first series has every row of the second one once, and has no others. -/
def HoldsOnce (t s : Series) : Prop :=
  ∃ rows : List (Option s.dtype.Value),
    t = ⟨s.dtype, rows⟩ ∧ rows.Nodup ∧ ∀ row, row ∈ rows ↔ row ∈ s.rows

/-- **The rows of a series, each of them once, have one order in which they are sorted.** -/
theorem HoldsOnce.eq_of_sortedAs (ht : t.HoldsOnce s) (hu : u.HoldsOnce s)
    (hsorted : t.SortedAs claim) (hsorted' : u.SortedAs claim) : t = u := by
  rw [sortedAs_iff_pairwise] at hsorted hsorted'
  obtain ⟨rows, rfl, hnodup, hmem⟩ := ht
  obtain ⟨rows', rfl, hnodup', hmem'⟩ := hu
  have hperm : rows.Perm rows' :=
    (List.perm_ext_iff_of_nodup hnodup hnodup').2 fun row ↦ (hmem row).trans (hmem' row).symm
  have hantisymm := (claim.antisymm_compareRows s.dtype).antisymm
  exact congrArg (Series.mk s.dtype)
    (List.Perm.eq_of_pairwise (fun a b _ _ ↦ hantisymm a b) hsorted hsorted' hperm)

/-! ### The two orders of unique rows -/

/-- In their order, the unique rows are the first of each kind. -/
theorem unique_true_eq : s.unique true = ⟨s.dtype, s.keptRows .first⟩ :=
  select_eq s _

/-- By key, the first places are sorted. -/
theorem unique_false_eq : s.unique false = ⟨s.dtype,
    (s.firstPlaces.mergeSort fun i j ↦ (compareKeys [s] i j).isLE).map s.valueAt⟩ := by
  simp only [← bne_gt_eq_isLE]
  exact select_eq s _

/-- The first places of all kinds are those that no equal row stands before. -/
theorem keptRows_first : s.keptRows .first = s.firstRows := by
  refine congrArg (List.map s.valueAt) (List.filter_congr fun i hi ↦ ?_)
  have hi' : i < s.length := List.mem_range.1 hi
  have hkept : i ∈ distinctPlaces s.samePlaces .first s.length ↔ _ :=
    mem_distinctPlaces (equivalence_samePlaces s)
  rw [distinctPlaces, List.mem_filter, and_iff_right hi] at hkept
  rw [Bool.eq_iff_iff, hkept, decide_eq_true_eq, and_iff_right hi']
  simp only [samePlaces_iff, Keep.Excludes]
  exact ⟨fun h j hj heq ↦ h j (hj.trans hi') heq.symm hj,
    fun h j _ heq hj ↦ h j hj heq.symm⟩

/-- The first rows of each kind are all rows, once. -/
theorem holdsOnce_unique_true (s : Series) : (s.unique true).HoldsOnce s :=
  ⟨_, unique_true_eq, nodup_keptRows s .first, fun _ ↦ mem_keptRows (by decide)⟩

/-- Unique rows by key are the same rows, whose places were sorted. -/
theorem holdsOnce_unique_false (s : Series) : (s.unique false).HoldsOnce s := by
  have hperm : ((s.firstPlaces.mergeSort fun i j ↦ (compareKeys [s] i j).isLE).map s.valueAt).Perm
      (s.keptRows .first) := (List.mergeSort_perm _ _).map _
  exact ⟨_, unique_false_eq, hperm.nodup_iff.2 (nodup_keptRows s .first),
    fun _ ↦ hperm.mem_iff.trans (mem_keptRows (by decide))⟩

/-- **The unique rows by key are sorted**, in ascending order with nulls before values. -/
theorem sortedAs_unique_false (s : Series) : (s.unique false).SortedAs ⟨.ascending, .before⟩ := by
  rw [unique_false_eq, sortedAs_iff_pairwise]
  refine List.pairwise_map.2 ((pairwise_mergeSort_isLE (compareKeys [s]) _).imp fun {i j} hij ↦ ?_)
  have hle : (s.comparePlaces ⟨false, false⟩ i j).isLE = true := isLE_of_compareBy hij
  rwa [comparePlaces_eq] at hle

/-- A sort leaves every row once, in order, if what repeats the row before it is dropped. -/
theorem exists_sort_destutter {stable : Bool} (how : PlaceSort) (h : Sortable [s] stable) :
    ∃ rows : List (Option s.dtype.Value), s.sort ⟨false, false⟩ stable how = .ok ⟨s.dtype, rows⟩ ∧
      HoldsOnce ⟨s.dtype, rows.destutter (· ≠ ·)⟩ s ∧
      SortedAs ⟨s.dtype, rows.destutter (· ≠ ·)⟩ ⟨.ascending, .before⟩ := by
  obtain ⟨t, ht⟩ : ∃ t, s.sort ⟨false, false⟩ stable how = .ok t := exists_sort_iff.2 h
  have hordered := pairwise_sort ht
  have hsorted : t.SortedAs ⟨.ascending, .before⟩ := sortedAs_sort ht
  obtain ⟨rows, rfl, hperm⟩ := perm_sort ht
  have hdedup : rows.destutter (· ≠ ·) = rows.dedup := hordered.destutter_eq_dedup
  refine ⟨rows, ht, ⟨_, rfl, ?_, fun row ↦ ?_⟩, hsorted.sublist (rows.destutter_sublist _)⟩
  · exact hdedup ▸ rows.nodup_dedup
  · rw [hdedup, List.mem_dedup, hperm.mem_iff]

end Series

/-! ### Nodes -/

namespace Expr

variable {fr : Frame} {x : Expr} {c : Column} {maintainOrder : Bool}

/-- The unique rows of an expression. -/
def unique (d : DataType) (maintainOrder : Bool) (x : Expr) : Expr :=
  node d (.unaryFunction (.unique maintainOrder)) [x]

/-- A column that claims to be sorted keeps its order, whatever the node says. -/
theorem values_unique {d : DataType} (hx : x.evaluate fr .frame .empty = .ok c) :
    (x.unique d maintainOrder).values fr .frame .empty =
      .ok (c.series.unique (c.sorted.isSome || maintainOrder)) := by
  rw [unique, values_node (Mapping.find?_empty _)]
  simp only [evaluateNode, List.map_cons, List.map_nil, hx]
  obtain ⟨s, sorted⟩ := c
  cases sorted <;> rfl

/-- **Unique rows, in either order.** They hold every row once, as it is met first or as a sort by
key leaves it without what repeats the row before it. Of a column that is sorted as it claims, in
ascending order with nulls before values, the rows that are met first are those by key. -/
theorem values_unique_eq :
    (∀ s : Series, s.unique true = ⟨s.dtype, s.firstRows⟩ ∧
      (s.unique true).HoldsOnce s ∧ (s.unique false).HoldsOnce s) ∧
    (∀ (s : Series) (stable : Bool) (how : PlaceSort), Series.Sortable [s] stable →
      ∃ rows : List (Option s.dtype.Value), s.sort ⟨false, false⟩ stable how = .ok ⟨s.dtype, rows⟩ ∧
        s.unique false = ⟨s.dtype, rows.destutter (· ≠ ·)⟩) ∧
    ∀ (fr fr' : Frame) (x y : Expr) (d d' : DataType) (c : Column) (maintainOrder : Bool),
      x.evaluate fr .frame .empty = .ok c → c.sorted = some ⟨.ascending, .before⟩ →
        c.series.SortedAs ⟨.ascending, .before⟩ →
          y.evaluate fr' .frame .empty = .ok { series := c.series } →
            ∃ t, (x.unique d maintainOrder).values fr .frame .empty = .ok t ∧
              (y.unique d' false).values fr' .frame .empty = .ok t := by
  refine ⟨fun s ↦ ⟨?_, s.holdsOnce_unique_true, s.holdsOnce_unique_false⟩,
    fun s stable how hs ↦ ?_, fun fr fr' x y d d' c maintainOrder hx hclaim hsorted hy ↦ ?_⟩
  · rw [Series.unique_true_eq, Series.keptRows_first]
  · obtain ⟨rows, hsort, honce, hsorted⟩ := Series.exists_sort_destutter how hs
    exact ⟨rows, hsort, s.holdsOnce_unique_false.eq_of_sortedAs honce s.sortedAs_unique_false
      hsorted⟩
  -- Both results hold each value once and are sorted, so they are the same.
  · have heq : c.series.unique true = c.series.unique false :=
      c.series.holdsOnce_unique_true.eq_of_sortedAs c.series.holdsOnce_unique_false hsorted.unique
        c.series.sortedAs_unique_false
    refine ⟨_, values_unique hx, ?_⟩
    rw [values_unique hy, hclaim]
    exact congrArg Except.ok heq.symm

/-- The frame of times in ascending order, whose column does not say that they ascend. -/
def plainTimesFrame : Frame := ⟨[⟨"time", { series := times.series }⟩], rfl⟩

/-- The column of the times. -/
def timeColumn : Expr := node .int64 (.col "time") []

/-- Costs are unique by key, and times as they ascend already. -/
theorem values_unique_eq_times :
    (∃ rows : List (Option (DataType.integer .int32).Value),
      Series.costs.sort ⟨false, false⟩ = .ok ⟨.integer .int32, rows⟩ ∧
        Series.costs.unique false = ⟨.integer .int32, rows.destutter (· ≠ ·)⟩) ∧
    times.series.SortedAs ⟨.ascending, .before⟩ ∧
      ∃ t, (timeColumn.unique .int64 false).values timesFrame .frame .empty = .ok t ∧
        (timeColumn.unique .int64 false).values plainTimesFrame .frame .empty = .ok t := by
  obtain ⟨-, hsort, hnode⟩ := values_unique_eq
  have hsorted : times.series.SortedAs ⟨.ascending, .before⟩ := by decide
  exact ⟨hsort Series.costs true .merging (by decide), hsorted,
    hnode timesFrame plainTimesFrame timeColumn timeColumn .int64 .int64 times false rfl rfl hsorted
      rfl⟩

end Expr

end Tabular
