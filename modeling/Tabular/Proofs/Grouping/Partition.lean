import Tabular.Proofs.Grouping.Groups
import Tabular.Proofs.Order.Keys
import Tabular.Proofs.Order.Places
import Tabular.Proofs.Rows.Operators

/-!
# The partition of rows by keys

Three operations have a notion of equal keys of their own: grouping, which compares the rows of all
keys at once, the null-aware comparison, which compares the rows of one, and sorting, for which
equal rows are those that it does not tell apart. They agree. Grouping puts two rows together
exactly if every key is equal there to the null-aware comparison (`Series.equalAt_iff`), and the
groups in key order have keys that increase strictly in the order of a sort
(`Series.pairwise_representatives_sortGroups`). Otherwise the groups come in the order of their
first rows (`Series.pairwise_representatives_groupPlaces`); `Series.groupRows_partition` puts all of
this together.

Strictly, since no two groups have equal keys: sorting alone would only give keys that do not
decrease.

The comparison of lists is the exception. Lists are keys like values of any other type, and rows
with equal lists share a group, but the operator refuses to compare them
(`Series.not_together_iff_nullEq`).
-/

namespace Tabular

namespace Series

variable {keys : List Series} {n : Nat}

/-! ### Equality of keys -/

/-- The rows of a key at two places are equal: to the null-aware comparison or, where there is
none, as lists. -/
def EqualAt (s : Series) (i j : Nat) : Prop :=
  if s.dtype.isList then s.select [i] = s.select [j]
  else
    (s.select [i]).combine (.comparison .nullEq) .boolean (s.select [j]) = .ok (ofFlags [some true])

/-- The null-aware comparison of two single rows. -/
theorem combine_nullEq_single {d : DataType} (hd : d.isList = false) (a b : Option d.Value) :
    (⟨d, [a]⟩ : Series).combine (.comparison .nullEq) .boolean ⟨d, [b]⟩ =
      .ok (ofFlags [some (decide (a = b))]) := by
  have hflag : Comparison.onRows .nullEq d (a, b) = some (decide (a = b)) := by
    have hiff : compareRows .before (d.compareValues .before) a b = .eq ↔ a = b :=
      Std.LawfulEqCmp.compare_eq_iff_eq
    exact congrArg some (Bool.eq_iff_iff.2 (by rw [decide_eq_true_eq, ← hiff]; exact beq_iff_eq))
  rw [combine_comparison_single .nullEq hd, hflag]

/-- **The null-aware comparison of two rows is true exactly if they are equal.** -/
theorem equalAt_iff {s : Series} {i j : Nat} : s.EqualAt i j ↔ s.select [i] = s.select [j] := by
  unfold EqualAt
  split
  · rfl
  · next hlist =>
    rw [select_eq, select_eq, List.map_singleton, List.map_singleton,
      combine_nullEq_single (Bool.eq_false_iff.2 hlist)]
    simp [ofFlags]

/-- Rows are the same to grouping if they are equal to the null-aware comparison, key by key. -/
theorem sameRows_iff_equalAt {i j : Nat} :
    sameRows keys i j = true ↔ ∀ s ∈ keys, s.EqualAt i j := by
  simp only [sameRows_iff, equalAt_iff]

/-! ### Order of the groups -/

section Order

variable {same : Nat → Nat → Bool} {groups : List (List Nat)} {i : Nat}

/-- The representative of a group is its first row. -/
theorem representatives_eq_map (h : ∀ group ∈ groups, group ≠ []) :
    representatives groups = groups.map (·.headD 0) := by
  induction groups with
  | nil => rfl
  | cons group groups ih =>
    obtain ⟨a, as, rfl⟩ := List.exists_cons_of_ne_nil (h group List.mem_cons_self)
    exact congrArg (a :: ·) (ih fun g hg ↦ h g (List.mem_cons_of_mem _ hg))

/-- A place that is added to a group leaves the representatives as they are, and a new group has it
for its own. -/
theorem representatives_addToGroups (h : ∀ group ∈ groups, group ≠ []) :
    representatives (addToGroups same i groups) = representatives groups ∨
      representatives (addToGroups same i groups) = representatives groups ++ [i] := by
  induction groups with
  | nil => exact .inr rfl
  | cons group groups ih =>
    obtain ⟨a, as, rfl⟩ := List.exists_cons_of_ne_nil (h group List.mem_cons_self)
    unfold addToGroups
    split
    · exact .inl rfl
    · exact (ih fun g hg ↦ h g (List.mem_cons_of_mem _ hg)).imp
        (congrArg (a :: ·)) (congrArg (a :: ·))

/-- Groups come in the order of their first rows. -/
theorem pairwise_representatives_groupPlaces (he : Equivalence fun i j ↦ same i j = true)
    (n : Nat) : (representatives (groupPlaces same n)).Pairwise (· < ·) := by
  induction n with
  | zero => exact .nil
  | succ n ih =>
    have hgrouped := isGrouping_groupPlaces he n
    rw [groupPlaces_succ]
    have hreps : representatives (addToGroups same n (groupPlaces same n)) = _ ∨ _ :=
      representatives_addToGroups hgrouped.ne_nil
    rcases hreps with h | h
    · rwa [h]
    · rw [h]
      refine List.pairwise_append.2 ⟨ih, List.pairwise_singleton _ _, fun i hi j hj ↦ ?_⟩
      rw [List.mem_singleton.1 hj]
      obtain ⟨group, hgroup, hig⟩ := List.mem_filterMap.1 hi
      exact hgrouped.lt hgroup (List.mem_of_head? hig)

end Order

/-- **In key order, keys increase strictly** from one group to the next. -/
theorem pairwise_representatives_sortGroups {groups : List (List Nat)}
    (h : AreGrouped (sameRows keys) n groups) :
    (representatives (sortGroups keys groups)).Pairwise fun i j ↦ compareKeys keys i j = .lt := by
  have hperm := sortGroups_perm keys groups
  have hne : ∀ group ∈ sortGroups keys groups, group ≠ [] :=
    fun group hg ↦ h.ne_nil group (hperm.mem_iff.1 hg)
  have horder : (sortGroups keys groups).Pairwise fun g h ↦
      (compareKeys keys (g.headD 0) (h.headD 0)).isLE = true := by
    have := transCmp_on (compareKeys keys) fun group : List Nat ↦ group.headD 0
    simp only [sortGroups, bne_gt_eq_isLE]
    exact pairwise_mergeSort_isLE (fun g h : List Nat ↦ compareKeys keys (g.headD 0) (h.headD 0)) _
  -- rows of two groups differ, in whatever order the groups stand
  have hsymm {i j : Nat} (hij : sameRows keys i j = false) : sameRows keys j i = false :=
    Bool.eq_false_iff.2 fun hji ↦
      absurd ((equivalence_sameRows keys).symm hji) (Bool.eq_false_iff.1 hij)
  have hapart : (sortGroups keys groups).Pairwise fun g h ↦
      ∀ i ∈ g, ∀ j ∈ h, sameRows keys i j = false :=
    (hperm.pairwise_iff fun hgh i hi j hj ↦ hsymm (hgh j hj i hi)).2 h.classes.apart
  rw [representatives_eq_map hne, List.pairwise_map]
  refine (horder.and hapart).imp_of_mem fun {g h} hg hh ⟨hle, hgh⟩ ↦ ?_
  have hhead {group : List Nat} (hgroup : group ∈ sortGroups keys groups) :
      group.headD 0 ∈ group := by
    obtain ⟨a, as, rfl⟩ := List.exists_cons_of_ne_nil (hne group hgroup)
    exact List.mem_cons_self
  have hdiffer : compareKeys keys (g.headD 0) (h.headD 0) ≠ .eq := fun heq ↦
    absurd (compareKeys_eq_iff.1 heq) (Bool.eq_false_iff.1 (hgh _ (hhead hg) _ (hhead hh)))
  cases hcmp : compareKeys keys (g.headD 0) (h.headD 0) with
  | lt => rfl
  | eq => exact absurd hcmp hdiffer
  | gt => rw [hcmp] at hle; cases hle

/-- The groups are the classes of rows with equal keys, each in ascending order. -/
structure PartitionsRows (keys : List Series) (n : Nat) (groups : List (List Nat)) : Prop where
  ne_nil : ∀ group ∈ groups, group ≠ []
  ascending : ∀ group ∈ groups, group.Pairwise (· < ·)
  /-- Every row is in exactly one group, once. -/
  perm : groups.flatten.Perm (List.range n)
  together_iff : ∀ i < n, ∀ j < n,
    (∃ group ∈ groups, i ∈ group ∧ j ∈ group) ↔ ∀ s ∈ keys, s.EqualAt i j

/-- The classes of grouping are those of the null-aware comparison. -/
theorem partitionsRows_of_isGrouping {groups : List (List Nat)}
    (h : IsGrouping (sameRows keys) n groups) : PartitionsRows keys n groups where
  ne_nil := h.ne_nil
  ascending := h.ascending
  perm := h.perm
  together_iff i hi j hj := by
    rw [← sameRows_iff_equalAt]
    constructor
    · rintro ⟨group, hg, hig, hjg⟩
      exact (h.mem_iff group hg i hig j hj).1 hjg
    · intro hij
      obtain ⟨group, hg, hig⟩ := h.exists_mem hi
      exact ⟨group, hg, hig, (h.mem_iff group hg i hig j hj).2 hij⟩

/-- Keys that increase strictly are in the order of a sort. -/
theorem sortIndices_select_of_pairwise {places : List Nat} (hne : keys ≠ [])
    (hordered : ∀ s ∈ keys, s.dtype.isOrdered = true)
    (h : places.Pairwise fun i j ↦ compareKeys keys i j = .lt) :
    sortIndices (keys.map (·.select places)) (keys.map fun _ ↦ ⟨false, false⟩) =
      .ok (List.range places.length) := by
  have hlen : ∀ s ∈ keys.map (·.select places), s.length = places.length :=
    List.forall_mem_map.2 fun s _ ↦ s.length_select places
  have hzip : ((keys.map (·.select places)).zip
        (keys.map fun _ ↦ (⟨false, false⟩ : SortKey))).map (fun c ↦ c.1.comparePlaces c.2) =
      (keys.map (·.select places)).map fun s ↦ s.comparePlaces ⟨false, false⟩ := by
    rw [List.zip_map', List.map_map, List.map_map]
    rfl
  refine sortIndices_stable_eq (mt List.map_eq_nil_iff.1 hne) hlen (by simp) ?_ (.refl _) ?_
  · refine List.forall_mem_map.2 fun s hs ↦ ?_
    rw [if_neg (by simp), select_eq]
    exact hordered s hs
  -- A stable sort leaves rows alone that are in strict order.
  · rw [List.pairwise_iff_getElem]
    intro a b ha hb hab
    rw [List.length_range] at ha hb
    have hlt : compareKeys (keys.map (·.select places)) a b = .lt := by
      rw [compareKeys_select ha hb]
      exact List.pairwise_iff_getElem.1 h a b ha hb hab
    rw [List.getElem_range, List.getElem_range, columnOrders, compareBy_append, hzip]
    rw [compareKeys] at hlt
    rw [hlt]
    rfl

/-- **The partition of rows by keys.** For any keys of one length, at least one, grouping succeeds
in either order; the groups are the classes of rows whose keys are equal, each in ascending order.
Unsorted, they come in the order of their first rows. Sorted, they are the same groups, and the keys
of their first rows increase strictly; a sort of these keys, where their types have one, leaves
them as they are. -/
theorem groupRows_partition (hne : keys ≠ []) (hlen : ∀ s ∈ keys, s.length = n) :
    ∃ groups sortedGroups, groupRows keys false = .ok groups ∧
      groupRows keys true = .ok sortedGroups ∧
      PartitionsRows keys n groups ∧ PartitionsRows keys n sortedGroups ∧
      (representatives groups).Pairwise (· < ·) ∧
      (representatives sortedGroups).Pairwise (fun i j ↦ compareKeys keys i j = .lt) ∧
      sortedGroups.Perm groups ∧
      ((∀ s ∈ keys, s.dtype.isOrdered = true) →
        sortIndices (keys.map (·.select (representatives sortedGroups)))
            (keys.map fun _ ↦ ⟨false, false⟩) =
          .ok (List.range (representatives sortedGroups).length)) := by
  have hsame := equivalence_sameRows keys
  have hgrouping := isGrouping_groupPlaces hsame n
  have hstrict := pairwise_representatives_sortGroups (areGrouped_groupPlaces hsame n)
  have hperm := sortGroups_perm keys (groupPlaces (sameRows keys) n)
  exact ⟨_, _, groupRows_eq_ok hne hlen false, groupRows_eq_ok hne hlen true,
    partitionsRows_of_isGrouping hgrouping, partitionsRows_of_isGrouping (hgrouping.of_perm hperm),
    pairwise_representatives_groupPlaces hsame n, hstrict, hperm,
    fun hordered ↦ sortIndices_select_of_pairwise hne hordered hstrict⟩

/-- A key with equal rows, one of them of nulls, and a key that tells some of them apart. -/
def cityKeys : List Series :=
  [⟨.utf8, [some "b", none, some "b", none]⟩, ⟨.boolean, [some true, none, some true, some true]⟩]

/-- The rows by city and street, in both orders. -/
theorem groupRows_partition_cities : ∃ groups sortedGroups,
    groupRows cityKeys false = .ok groups ∧ groupRows cityKeys true = .ok sortedGroups ∧
      PartitionsRows cityKeys 4 groups ∧ PartitionsRows cityKeys 4 sortedGroups := by
  obtain ⟨groups, sortedGroups, hgroups, hsorted, hpartition, hpartition', -⟩ :=
    groupRows_partition (show cityKeys ≠ [] from List.cons_ne_nil _ _) (n := 4) (by decide)
  exact ⟨groups, sortedGroups, hgroups, hsorted, hpartition, hpartition'⟩

/-- Two rows with the same list. -/
def listKey : Series := ⟨.list .int64, [some [], some []]⟩

/-- Rows of lists are grouped by keys that the null-aware comparison refuses. -/
theorem not_together_iff_nullEq :
    ¬∀ (keys : List Series) (n : Nat), keys ≠ [] → (∀ s ∈ keys, s.length = n) →
      ∀ groups, groupRows keys false = .ok groups → ∀ i < n, ∀ j < n,
        ((∃ group ∈ groups, i ∈ group ∧ j ∈ group) ↔ ∀ s ∈ keys,
          (s.select [i]).combine (.comparison .nullEq) .boolean (s.select [j]) =
            .ok (ofFlags [some true])) := by
  intro h
  have hgroups : groupRows [listKey] false = .ok [[0, 1]] := rfl
  have hequal := (h [listKey] 2 (List.cons_ne_nil _ _) (by decide) _ hgroups 0 (by decide) 1
    (by decide)).1 ⟨[0, 1], by decide, by decide, by decide⟩ listKey List.mem_cons_self
  have hfault : (listKey.select [0]).combine (.comparison .nullEq) .boolean (listKey.select [1]) =
      kernelFault (.comparison (.list .int64)) := rfl
  rw [hfault] at hequal
  cases hequal

end Series

end Tabular
