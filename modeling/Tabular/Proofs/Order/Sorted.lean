import Tabular.Proofs.Order.Places
import Tabular.Series.Distinct
import Tabular.Series.Select

/-!
# Sorted series

What a claim of sortedness says of a series (`Series.SortedAs`): its values are monotone in the
claimed direction, and its nulls stand together at the end that the claim puts them at. These are
the series in which every row compares as no greater than the ones after it
(`Series.sortedAs_iff_pairwise`), and so some of the rows of a sorted series, in their order, are
sorted as well (`Series.SortedAs.sublist`). Most operations that pass on a claim do no more than
leave out rows.
-/

namespace Tabular

/-- Values with a number of nulls at one end, before them or after. -/
def withNulls {α : Type} (first : Bool) (nulls : Nat) (values : List α) : List (Option α) :=
  if first then List.replicate nulls none ++ values.map some
  else values.map some ++ List.replicate nulls none

section WithNulls

variable {α : Type} {first : Bool} {nulls : Nat} {values : List α} {rows : List (Option α)}
  {R : Option α → Option α → Prop}

/-- Without values there are only nulls. -/
theorem withNulls_nil : withNulls first nulls ([] : List α) = List.replicate nulls none := by
  cases first <;> simp [withNulls]

/-- Without nulls there are only values. -/
theorem withNulls_zero : withNulls first 0 values = values.map some := by
  cases first <;> simp [withNulls]

/-- The values among the rows are the values. -/
@[simp]
theorem some_mem_withNulls {v : α} : some v ∈ withNulls first nulls values ↔ v ∈ values := by
  cases first <;> simp [withNulls]

/-- There is a null among the rows if their number is not nought. -/
@[simp]
theorem none_mem_withNulls : none ∈ withNulls first nulls values ↔ nulls ≠ 0 := by
  cases first <;> simp [withNulls]

/-- Nulls that stand last end the rows. -/
theorem getLast?_withNulls (hnulls : nulls ≠ 0) (hvalues : values ≠ []) :
    (withNulls first nulls values).getLast? = some none ↔ first = false := by
  cases first with
  | true =>
    obtain ⟨v, hv⟩ := Option.isSome_iff_exists.1 (List.getLast?_isSome.2 hvalues)
    simp [withNulls, hv]
  | false => simp [withNulls, List.getLast?_replicate, hnulls]

/-- **Rows in order are values in order with the nulls at one end**, for an order in which nulls are
before values, or after them. -/
theorem pairwise_iff_withNulls (hnone : R none none) (hbefore : ∀ v, R none (some v) ↔ first = true)
    (hafter : ∀ v, R (some v) none ↔ first = false) :
    rows.Pairwise R ↔ ∃ nulls values, rows = withNulls first nulls values ∧
      values.Pairwise fun a b ↦ R (some a) (some b) := by
  constructor
  · intro h
    induction rows with
    | nil => exact ⟨0, [], by rw [withNulls_nil, List.replicate_zero], .nil⟩
    | cons row rows ih =>
      obtain ⟨hrow, hrows⟩ := List.pairwise_cons.1 h
      obtain ⟨nulls, values, rfl, hvalues⟩ := ih hrows
      cases row with
      | none =>
        cases hfirst : first with
        | true => exact ⟨nulls + 1, values, by simp [withNulls, List.replicate_succ], hvalues⟩
        | false =>
          -- no value can follow a null
          have hnil : values = [] := List.eq_nil_iff_forall_not_mem.2 fun v hv ↦ by
            have hfirst' := (hbefore v).1 (hrow _ (some_mem_withNulls.2 hv))
            rw [hfirst] at hfirst'
            cases hfirst'
          subst hnil
          refine ⟨nulls + 1, [], ?_, .nil⟩
          rw [withNulls_nil, withNulls_nil, List.replicate_succ]
      | some v =>
        have hvalues' : (v :: values).Pairwise fun a b ↦ R (some a) (some b) :=
          .cons (fun w hw ↦ hrow _ (some_mem_withNulls.2 hw)) hvalues
        cases hfirst : first with
        | true =>
          -- no null can follow a value
          have hzero : nulls = 0 := by
            by_contra hne
            have hfirst' := (hafter v).1 (hrow _ (none_mem_withNulls.2 hne))
            rw [hfirst] at hfirst'
            cases hfirst'
          subst hzero
          exact ⟨0, v :: values, by rw [withNulls_zero, withNulls_zero, List.map_cons], hvalues'⟩
        | false => exact ⟨nulls, v :: values, rfl, hvalues'⟩
  · rintro ⟨nulls, values, rfl, hvalues⟩
    have hnulls : (List.replicate nulls none).Pairwise R := List.pairwise_replicate.2 (.inr hnone)
    cases first with
    | true =>
      refine List.pairwise_append.2 ⟨hnulls, List.pairwise_map.2 hvalues, fun a ha b hb ↦ ?_⟩
      obtain ⟨v, -, rfl⟩ := List.mem_map.1 hb
      exact (List.mem_replicate.1 ha).2 ▸ (hbefore v).2 rfl
    | false =>
      refine List.pairwise_append.2 ⟨List.pairwise_map.2 hvalues, hnulls, fun a ha b hb ↦ ?_⟩
      obtain ⟨v, -, rfl⟩ := List.mem_map.1 ha
      exact (List.mem_replicate.1 hb).2 ▸ (hafter v).2 rfl

end WithNulls

namespace Series

variable {s t : Series} {claim : Sortedness}

/-- The values of the series are monotone in the claimed direction, and its nulls stand together,
before the values or after them. Nulls inside lists are compared as the claim places nulls. -/
def Monotone (s : Series) (claim : Sortedness) (first : Bool) : Prop :=
  ∃ nulls values, s.rows = withNulls first nulls values ∧
    values.Pairwise fun a b ↦
      (claim.order.apply (s.dtype.compareValues claim.nullOrder a b)).isLE

/-- The series is sorted as claimed: its values are monotone in the claimed direction, and its nulls
stand together at the end that the claim puts them at. -/
def SortedAs (s : Series) (claim : Sortedness) : Prop := s.Monotone claim claim.nullsFirst

/-- **A series is sorted as claimed if its rows are in the order of the claim.** -/
theorem sortedAs_iff_pairwise :
    s.SortedAs claim ↔ s.rows.Pairwise fun a b ↦ (claim.compareRows s.dtype a b).isLE := by
  refine (pairwise_iff_withNulls (R := fun a b ↦ (claim.compareRows s.dtype a b).isLE = true) ?_
    (fun v ↦ ?_) fun v ↦ ?_).symm
  · rw [Sortedness.compareRows_none]
    rfl
  · rw [Sortedness.isLE_none_some]
  · rw [Sortedness.isLE_some_none, Bool.not_eq_true']

instance decidableSortedAs (s : Series) (claim : Sortedness) : Decidable (s.SortedAs claim) :=
  decidable_of_iff _ sortedAs_iff_pairwise.symm

/-- Where the nulls stand is no matter if there are none, or if there is nothing else. -/
theorem Monotone.sortedAs {first : Bool} (h : s.Monotone claim first)
    (hfirst : none ∈ s.rows → (∃ v, some v ∈ s.rows) → first = claim.nullsFirst) :
    s.SortedAs claim := by
  obtain ⟨nulls, values, hrows, hvalues⟩ := h
  by_cases hzero : nulls = 0
  · subst hzero
    exact ⟨0, values, by rw [hrows, withNulls_zero, withNulls_zero], hvalues⟩
  · cases values with
    | nil => exact ⟨nulls, [], by rw [hrows, withNulls_nil, withNulls_nil], hvalues⟩
    | cons v values =>
      refine ⟨nulls, v :: values, ?_, hvalues⟩
      rw [← hfirst (hrows ▸ none_mem_withNulls.2 hzero)
        ⟨v, hrows ▸ some_mem_withNulls.2 List.mem_cons_self⟩]
      exact hrows

/-! ### Operations on sorted series -/

/-- **Some of the rows of a sorted series, in their order, are sorted.** -/
theorem SortedAs.sublist {d : DataType} {rows rows' : List (Option d.Value)}
    (h : SortedAs ⟨d, rows⟩ claim) (hsub : rows'.Sublist rows) : SortedAs ⟨d, rows'⟩ claim :=
  sortedAs_iff_pairwise.2 ((sortedAs_iff_pairwise.1 h).sublist hsub)

/-- A sort gives what it claims. -/
theorem sortedAs_sort {k : SortKey} {stable : Bool} {how : PlaceSort}
    (h : s.sort k stable how = .ok t) : t.SortedAs (.ofKey k) :=
  sortedAs_iff_pairwise.2 (pairwise_sort h)

/-- A mask leaves rows in their order. -/
theorem sublist_keepWhere {α : Type} (rows : List α) (mask : List (Option Bool)) :
    (keepWhere rows mask).Sublist rows := by
  induction rows generalizing mask with
  | nil => exact .slnil
  | cons row rows ih =>
    cases mask with
    | nil => exact List.nil_sublist _
    | cons m mask =>
      unfold keepWhere
      split
      · exact (ih mask).cons_cons row
      · exact (ih mask).cons row

/-- What a mask keeps of sorted rows is sorted. -/
theorem SortedAs.keep {mask : List (Option Bool)} (h : s.SortedAs claim)
    (ht : s.keep mask = .ok t) : t.SortedAs claim := by
  unfold Series.keep at ht
  split at ht
  · cases ht
  · injection ht with ht
    exact ht ▸ h.sublist (sublist_keepWhere _ _)

/-- Sorted rows without nulls are sorted. -/
theorem SortedAs.dropNulls (h : s.SortedAs claim) : s.dropNulls.SortedAs claim := by
  unfold Series.dropNulls
  split
  · exact h
  · exact h.sublist List.filter_sublist

/-- Places that ascend select rows in their order. -/
theorem SortedAs.select {places : List Nat} (h : s.SortedAs claim)
    (hplaces : places.Sublist (List.range s.length)) : (s.select places).SortedAs claim := by
  have hsub := hplaces.map fun i ↦ (s.rows[i]?).join
  rw [map_range_rows] at hsub
  rw [select_eq]
  exact h.sublist hsub

/-- The first rows of each kind stay in their order. -/
theorem SortedAs.unique (h : s.SortedAs claim) : (s.unique true).SortedAs claim :=
  h.select List.filter_sublist

end Series

end Tabular
