import Tabular.Proofs.Rows.Reordering

/-!
# Sorting by several keys

What sorting rows by several keys means, said without the two kernels that do it. A key tells two
rows apart if their values differ, and then puts one before the other: values in the direction of
the key, and a null at the end that the key names for nulls, whatever its direction. Of several keys
the first one that tells two rows apart decides.

Both kernels sort in this sense (`Series.SortsBy`, `Series.sortIndices_sortsBy`), because they
compare places as the keys say (`Series.isLE_columnOrders_iff`). They do not take the same types,
though: a stable sort of a single series goes by columns, an unstable one ranks the series. Since
rows that a key does not tell apart are equal, the sorted series is the same in both.

Rows of the null type are all equal, and could be sorted by leaving them as they are; but they have
no order, and are refused (`Series.not_exists_sortsBy`).
-/

namespace Tabular

/-- A row stands before another one by the key. -/
def SortKey.Before (k : SortKey) {d : DataType} : Option d.Value → Option d.Value → Prop
  | some a, some b => d.compareValues k.nullOrder a b = if k.descending then .gt else .lt
  | none, some _ => k.nullsLast = false
  | some _, none => k.nullsLast = true
  | none, none => False

/-- Rows are compared as less if one stands before the other. -/
theorem SortKey.compareRows_eq_lt_iff {k : SortKey} {d : DataType} {a b : Option d.Value} :
    k.compareRows d a b = .lt ↔ k.Before a b := by
  obtain ⟨descending, nullsLast⟩ := k
  match a, b with
  | none, none | none, some _ | some _, none =>
    cases descending <;> cases nullsLast <;> simp [compareRows, Before, order, nullOrder,
      Tabular.compareRows]
  | some a, some b =>
    cases descending with
    | false => exact .rfl
    | true => exact Ordering.swap_eq_lt

namespace Series

variable {s : Series} {k : SortKey} {keys : List Series} {options : List SortKey}
  {columns : List (Series × SortKey)} {stable : Bool} {how : PlaceSort} {n i j : Nat}
  {places : List Nat}

/-! ### The order of rows by keys -/

/-- The row at a place. -/
def valueAt (s : Series) (i : Nat) : Option s.dtype.Value := (s.rows[i]?).join

/-- The rows at the first place stand before those at the second one, by the first column that tells
them apart. -/
def ComesBefore (i j : Nat) : List (Series × SortKey) → Prop
  | [] => False
  | (s, k) :: columns =>
    k.Before (s.valueAt i) (s.valueAt j) ∨ s.valueAt i = s.valueAt j ∧ ComesBefore i j columns

/-- No column tells the rows at the places apart. -/
def Tied (i j : Nat) (columns : List (Series × SortKey)) : Prop :=
  ∀ c ∈ columns, c.1.valueAt i = c.1.valueAt j

/-- A column compares a place as less if its row stands before the other. -/
theorem comparePlaces_eq_lt_iff :
    s.comparePlaces k i j = .lt ↔ k.Before (s.valueAt i) (s.valueAt j) := by
  rw [comparePlaces_eq, ← SortKey.compareRows_eq]
  exact SortKey.compareRows_eq_lt_iff

/-- Places that a column does not tell apart have the same row. -/
theorem comparePlaces_eq_eq_iff : s.comparePlaces k i j = .eq ↔ s.valueAt i = s.valueAt j := by
  rw [comparePlaces_eq]
  exact Std.LawfulEqCmp.compare_eq_iff_eq

/-- Of several columns the first that tells the places apart decides. -/
theorem compareBy_eq_lt_iff :
    compareBy (columns.map fun c ↦ c.1.comparePlaces c.2) i j = .lt ↔ ComesBefore i j columns := by
  induction columns with
  | nil => exact ⟨nofun, False.elim⟩
  | cons c columns ih =>
    rw [List.map_cons, compareBy_cons, Ordering.then_eq_lt, ih, comparePlaces_eq_lt_iff,
      comparePlaces_eq_eq_iff]
    rfl

/-- Places that compare as equal are tied. -/
theorem compareBy_eq_eq_iff :
    compareBy (columns.map fun c ↦ c.1.comparePlaces c.2) i j = .eq ↔ Tied i j columns := by
  rw [compareBy_eq_iff, List.forall_mem_map]
  exact forall₂_congr fun _ _ ↦ comparePlaces_eq_eq_iff

/-- **Places are in order by the comparisons of a sort** if the first one comes before the second
one, or if their rows are tied. Then a stable sort wants the places themselves to be in order. -/
theorem isLE_columnOrders_iff : (compareBy (columnOrders columns stable) i j).isLE = true ↔
    ComesBefore i j columns ∨ Tied i j columns ∧ (stable = true → i ≤ j) := by
  have hnumber : (compareBy (if stable then [Ord.compare] else []) i j).isLE = true ↔
      (stable = true → i ≤ j) := by
    cases stable with
    | false => exact ⟨fun _ ↦ nofun, fun _ ↦ rfl⟩
    | true =>
      rw [if_pos rfl, compareBy_cons, compareBy_nil, Ordering.then_eq, Nat.isLE_compare]
      exact ⟨fun h _ ↦ h, fun h ↦ h rfl⟩
  rw [columnOrders, compareBy_append, Ordering.isLE_then_iff_or, hnumber, compareBy_eq_lt_iff,
    compareBy_eq_eq_iff]

/-! ### What a sort gives -/

/-- The places are those of `n` rows in the order of the columns; in a stable sort, rows that are
tied keep their order. -/
structure SortsBy (columns : List (Series × SortKey)) (stable : Bool) (n : Nat)
    (places : List Nat) : Prop where
  perm : places.Perm (List.range n)
  ordered : places.Pairwise fun i j ↦
    ComesBefore i j columns ∨ Tied i j columns ∧ (stable = true → i < j)

/-- Any way to put places in order sorts by the columns. -/
theorem sortsBy_places (columns : List (Series × SortKey)) (stable : Bool) (how : PlaceSort)
    (n : Nat) :
    SortsBy columns stable n (how.places (compareBy (columnOrders columns stable)) n) where
  perm := how.perm _ n
  ordered := by
    have hperm := how.perm (compareBy (columnOrders columns stable)) n
    have hne := hperm.nodup_iff.2 List.nodup_range
    refine ((how.ordered _ n (transCmp_columnOrders columns stable)).and hne).imp ?_
    rintro i j ⟨hij, hne⟩
    rcases isLE_columnOrders_iff.1 hij with hbefore | ⟨htied, hle⟩
    · exact .inl hbefore
    · exact .inr ⟨htied, fun hstable ↦ Nat.lt_of_le_of_ne (hle hstable) hne⟩

/-- **Stable or not, a series sorts to the same series.** -/
theorem exists_sort_stable_unstable (hs : s.dtype.isRanked = true) (k : SortKey)
    (how how' : PlaceSort) : ∃ t, s.sort k true how = .ok t ∧ s.sort k false how' = .ok t := by
  obtain ⟨t, ht⟩ : ∃ t, s.sort k true how = .ok t :=
    exists_sort_iff.2 (sortable_singleton_true.2 (DataType.isOrdered_of_isRanked hs))
  exact ⟨t, ht, sort_of_perm (.refl s.rows) (sortable_singleton_false.2 hs) ht⟩

/-- **A sort puts rows in the order of its keys.** Keys of one length with an option each, of types
with an order, are sorted by whichever kernel is taken, and by any algorithm in it: the result has
every place once, in lexicographic order of the keys, each in its direction and with its nulls where
it wants them, and in a stable sort rows that are tied keep their order. A type without an order is
refused. A single series of a type that both kernels take is sorted alike by both. -/
theorem sortIndices_sortsBy :
    (∀ (keys : List Series) (options : List SortKey) (n : Nat) (stable : Bool) (how : PlaceSort),
      keys ≠ [] → (∀ s ∈ keys, s.length = n) → options.length = keys.length →
        (Sortable keys stable → ∃ places, sortIndices keys options stable how = .ok places ∧
          SortsBy (keys.zip options) stable n places) ∧
        (¬Sortable keys stable → ∃ s ∈ keys,
          sortIndices keys options stable how = kernelFault (.noOrder s.dtype))) ∧
    ∀ (s : Series) (k : SortKey) (how how' : PlaceSort), s.dtype.isRanked = true →
      ∃ t, s.sort k true how = .ok t ∧ s.sort k false how' = .ok t := by
  refine ⟨fun keys options n stable how hne hlen hopts ↦ ⟨fun hkeys ↦ ?_, fun hkeys ↦ ?_⟩,
    fun s k how how' hs ↦ exists_sort_stable_unstable hs k how how'⟩
  · exact ⟨_, (sortIndices_eq_ok hne hlen hopts).2 ⟨hkeys, rfl⟩, sortsBy_places _ _ _ _⟩
  · exact exists_sortIndices_eq_noOrder hne hlen hopts hkeys

/-- What orders cost, as far as it is known. -/
def costs : Series :=
  ⟨.integer .int32, [some (FixedInt.wrap .int32 3), none, some (FixedInt.wrap .int32 3)]⟩

/-- Which orders are urgent. -/
def urgent : Series := ofFlags [some true, some false, some false]

/-- The dearest orders first and those of unknown cost last, urgent ones after others. -/
def dearestFirst : List SortKey := [⟨true, true⟩, ⟨false, false⟩]

/-- Costs and urgency as keys, a key of the null type, and costs by themselves. -/
theorem sortIndices_sortsBy_costs :
    (∃ places, sortIndices [costs, urgent] dearestFirst = .ok places ∧
      SortsBy ([costs, urgent].zip dearestFirst) true 3 places) ∧
    (∃ s ∈ [nulls .null 3, urgent], sortIndices [nulls .null 3, urgent] dearestFirst false =
      kernelFault (.noOrder s.dtype)) ∧
    ∃ t, costs.sort ⟨true, true⟩ = .ok t ∧ costs.sort ⟨true, true⟩ false = .ok t := by
  obtain ⟨hsort, hsame⟩ := sortIndices_sortsBy
  refine ⟨?_, ?_, hsame costs ⟨true, true⟩ .merging .merging rfl⟩
  · exact (hsort [costs, urgent] dearestFirst 3 true .merging (by decide) (by decide) rfl).1
      (by decide)
  · exact (hsort [nulls .null 3, urgent] dearestFirst 3 false .merging (by decide) (by decide)
      rfl).2 (by decide)

/-- Rows of the null type are all tied, but they are not sorted. -/
theorem not_exists_sortsBy :
    ¬∀ (keys : List Series) (options : List SortKey) (n : Nat) (stable : Bool) (how : PlaceSort),
      keys ≠ [] → (∀ s ∈ keys, s.length = n) → options.length = keys.length →
        ∃ places, sortIndices keys options stable how = .ok places ∧
          SortsBy (keys.zip options) stable n places := by
  intro h
  obtain ⟨places, hplaces, -⟩ := h [nulls .null 1] [⟨false, false⟩] 1 false .merging (by decide)
    (by decide) rfl
  have herror : sortIndices [nulls .null 1] [⟨false, false⟩] false .merging =
      kernelFault (.noOrder .null) := rfl
  rw [herror] at hplaces
  cases hplaces

end Series

end Tabular
