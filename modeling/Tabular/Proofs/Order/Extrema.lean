import Tabular.Proofs.Rows.Reordering

/-!
# Extrema

The least and the greatest row of a series are found by sorting, with nulls last: the first row is a
value that no other comes before, or a null if there are no values (`IsExtremum`,
`Series.exists_extremum`). Since values that compare as equal are equal, there is one extremum at
most (`IsExtremum.unique`), and it can be found in parts: it is the extremum of the extrema of the
parts, of which those without values count for nothing (`IsExtremum.of_parts`).

Sorting is how an extremum is found and not what it is. The description without a sort is the one
that running totals, totals of groups and columns with NaNs are compared by.
-/

namespace Tabular

variable {d : DataType} {greatest : Bool} {rows rows' : List (Option d.Value)}
  {m : Option d.Value}

/-- The order in which the extremum comes first. -/
def extremumOrder (greatest : Bool) : Sortedness := .ofKey ⟨greatest, true⟩

/-- The value comes no later than the other in the order in which the extremum comes first. -/
def Precedes (d : DataType) (greatest : Bool) (v w : d.Value) : Prop :=
  ((extremumOrder greatest).compareRows d (some v) (some w)).isLE = true

/-- Values that come no later than each other are equal. -/
theorem Precedes.antisymm {v w : d.Value} (h : Precedes d greatest v w)
    (h' : Precedes d greatest w v) : v = w := by
  have heq : some v = some w := (Sortedness.lawfulEqCmp_compareRows _ d).eq_of_compare
    (Std.OrientedCmp.isLE_antisymm h h')
  injection heq

/-- A value comes no later than itself. -/
theorem Precedes.refl (v : d.Value) : Precedes d greatest v v := by
  exact Std.ReflCmp.isLE_rfl

/-- What comes no later than one of two in order comes no later than the other. -/
theorem Precedes.trans {u v w : d.Value} (h : Precedes d greatest u v)
    (h' : Precedes d greatest v w) : Precedes d greatest u w := by
  exact Std.TransCmp.isLE_trans h h'

/-- Where values are compared by a key, the least or the greatest key comes first. -/
theorem precedes_iff_of_key {key : d.Value → Int}
    (hkey : ∀ nulls v w, d.compareValues nulls v w = compare (key v) (key w)) {v w : d.Value} :
    Precedes d greatest v w ↔ if greatest then key w ≤ key v else key v ≤ key w := by
  cases greatest with
  | false =>
    have hcompare : (extremumOrder false).compareRows d (some v) (some w) =
        compare (key v) (key w) := hkey _ v w
    rw [Precedes, hcompare]
    exact Int.isLE_compare
  | true =>
    have hcompare : (extremumOrder true).compareRows d (some v) (some w) =
        (compare (key v) (key w)).swap := congrArg Ordering.swap (hkey _ v w)
    rw [Precedes, hcompare, Ordering.isLE_swap]
    exact Int.isGE_compare

/-- Integers come in the order of their values. -/
theorem precedes_integer_iff {t : IntType} {v w : FixedInt t} :
    Precedes (.integer t) greatest v w ↔
      if greatest then w.toInt ≤ v.toInt else v.toInt ≤ w.toInt :=
  precedes_iff_of_key fun _ _ _ ↦ rfl

/-- The row is the least or the greatest one: a value that comes first if there are values, and a
null if there are none. -/
structure IsExtremum (d : DataType) (greatest : Bool) (rows : List (Option d.Value))
    (m : Option d.Value) : Prop where
  eq_none : m = none → ∀ x ∈ rows, x = none
  mem : ∀ v, m = some v → some v ∈ rows
  precedes : ∀ v, m = some v → ∀ w, some w ∈ rows → Precedes d greatest v w

namespace IsExtremum

/-- A row that comes first among all, with nulls last, is the extremum. -/
theorem of_first (hmem : m ∈ rows)
    (h : ∀ x ∈ rows, ((extremumOrder greatest).compareRows d m x).isLE = true) :
    IsExtremum d greatest rows m where
  eq_none := by
    rintro rfl x hx
    cases x with
    | none => rfl
    | some v =>
      have hle := h _ hx
      have hlast : (extremumOrder greatest).nullsFirst = false := by cases greatest <;> rfl
      rw [Sortedness.isLE_none_some, hlast] at hle
      cases hle
  mem v hm := hm ▸ hmem
  precedes v hm w hw := by
    have hle := h _ hw
    rwa [hm] at hle

/-- A value that comes no later than any is the extremum. -/
theorem of_mem {v : d.Value} (hmem : some v ∈ rows)
    (h : ∀ w, some w ∈ rows → Precedes d greatest v w) : IsExtremum d greatest rows (some v) where
  eq_none := nofun
  mem _ hv := hv ▸ hmem
  precedes _ hv := Option.some_inj.1 hv ▸ h

/-- The order of the rows is no matter. -/
theorem of_perm (h : IsExtremum d greatest rows m) (hp : rows.Perm rows') :
    IsExtremum d greatest rows' m where
  eq_none hm x hx := h.eq_none hm x (hp.mem_iff.2 hx)
  mem v hm := hp.mem_iff.1 (h.mem v hm)
  precedes v hm w hw := h.precedes v hm w (hp.mem_iff.2 hw)

/-- The extremum is null just if all rows are. -/
theorem eq_none_iff (h : IsExtremum d greatest rows m) : m = none ↔ ∀ x ∈ rows, x = none := by
  refine ⟨h.eq_none, fun hnone ↦ ?_⟩
  cases m with
  | none => rfl
  | some v => exact absurd (hnone _ (h.mem v rfl)) nofun

/-- There is one extremum. -/
theorem unique {m' : Option d.Value} (h : IsExtremum d greatest rows m)
    (h' : IsExtremum d greatest rows m') : m = m' := by
  cases m with
  | none => exact (h'.eq_none_iff.2 (h.eq_none rfl)).symm
  | some v =>
    cases m' with
    | none => exact h.eq_none_iff.2 (h'.eq_none rfl)
    | some w =>
      exact congrArg some (Precedes.antisymm (h.precedes v rfl w (h'.mem w rfl))
        (h'.precedes w rfl v (h.mem v rfl)))

/-- **The extremum of a whole is that of the extrema of its parts.** -/
theorem of_parts {α : Type} {as : List α} {part : α → List (Option d.Value)}
    {x : α → Option d.Value} (hparts : ∀ a ∈ as, IsExtremum d greatest (part a) (x a))
    (h : IsExtremum d greatest (as.flatMap part) m) : IsExtremum d greatest (as.map x) m := by
  -- the extremum of a part is a row of the whole
  have hmem {w : d.Value} (hw : some w ∈ as.map x) : some w ∈ as.flatMap part := by
    obtain ⟨a, ha, hxa⟩ := List.mem_map.1 hw
    exact List.mem_flatMap.2 ⟨a, ha, (hparts a ha).mem w hxa⟩
  refine ⟨fun hm y hy ↦ ?_, fun v hm ↦ ?_, fun v hm w hw ↦ h.precedes v hm w (hmem hw)⟩
  · cases y with
    | none => rfl
    | some w => exact h.eq_none hm _ (hmem hy)
  · -- the part that holds it has an extremum, which neither comes before it nor after it
    obtain ⟨a, ha, hv⟩ := List.mem_flatMap.1 (h.mem v hm)
    refine List.mem_map.2 ⟨a, ha, ?_⟩
    cases hxa : x a with
    | none => exact ((hparts a ha).eq_none hxa _ hv).symm
    | some w =>
      have hw : some w ∈ as.map x := List.mem_map.2 ⟨a, ha, hxa⟩
      rw [Precedes.antisymm ((hparts a ha).precedes w hxa v hv) (h.precedes v hm w (hmem hw))]

end IsExtremum

namespace Series

/-- **A series of a type that can be ranked has its extremum.** -/
theorem exists_extremum (hd : d.isRanked = true) (greatest : Bool)
    (rows : List (Option d.Value)) :
    ∃ m, (⟨d, rows⟩ : Series).extremum greatest = .ok (.single d m) ∧
      IsExtremum d greatest rows m := by
  by_cases hrows : rows = []
  · subst hrows
    exact ⟨none, rfl, nofun, nofun, nofun⟩
  · obtain ⟨t, ht⟩ : ∃ t, sort ⟨d, rows⟩ ⟨greatest, true⟩ false .merging = .ok t :=
      exists_sort_iff.2 (sortable_singleton_false.2 hd)
    have hordered := pairwise_sort ht
    obtain ⟨out, rfl, hout⟩ := perm_sort ht
    rw [extremum_eq_sort hrows, ht]
    cases out with
    | nil => exact absurd (List.nil_perm.1 hout) hrows
    | cons m out =>
      refine ⟨m, rfl, IsExtremum.of_perm (.of_first List.mem_cons_self fun x hx ↦ ?_) hout⟩
      rcases List.mem_cons.1 hx with rfl | hx
      · exact Std.ReflCmp.isLE_rfl
      · exact List.rel_of_pairwise_cons hordered hx

end Series

end Tabular
