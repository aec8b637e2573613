import Tabular.Proofs.Grouping.Partition
import Tabular.Proofs.Rows.Reordering

/-!
# Groups of reordered rows

Rows that are put into another order are still grouped by their keys, but the groups come in another
order, and so do the rows within each of them. Put back at the places where their rows stood, the
groups are the same sets of rows. So each group of the reordered rows is matched with a group of the
rows, and the matching is one to one (`Regrouped`, `Series.regrouped_of_isGrouping`). In key order
there is nothing to choose: the first groups are matched, the second, and so on
(`Series.order_eq_range`).

Two lists of groups with the same classes differ by an order (`IsPartition.exists_order`), because a
group is determined as a set by any of its places. That the groups are in ascending order is lost
when they are put back, so it is no part of `IsPartition`.
-/

namespace Tabular

/-- The groups are the classes of the places `0, …, n - 1` that are the same, in whatever order
their places stand. -/
structure IsPartition (same : Nat → Nat → Bool) (n : Nat) (groups : List (List Nat)) : Prop where
  ne_nil : ∀ group ∈ groups, group ≠ []
  /-- Every place is in exactly one group. -/
  perm : groups.flatten.Perm (List.range n)
  mem_iff : ∀ group ∈ groups, ∀ i ∈ group, ∀ j < n, j ∈ group ↔ same i j = true

/-- A grouping is a partition once the order within groups is forgotten. -/
theorem IsGrouping.isPartition {same : Nat → Nat → Bool} {n : Nat} {groups : List (List Nat)}
    (h : IsGrouping same n groups) : IsPartition same n groups :=
  ⟨h.ne_nil, h.perm, h.mem_iff⟩

/-- A list is its entries, one by one. -/
theorem map_range_getD (places : List Nat) :
    (List.range places.length).map (places.getD · 0) = places := by
  refine List.ext_getElem (by rw [List.length_map, List.length_range]) fun i _ hi ↦ ?_
  rw [List.getElem_map, List.getElem_range, List.getD_eq_getElem _ _ hi]

namespace IsPartition

variable {same same' : Nat → Nat → Bool} {n : Nat} {groups groups' : List (List Nat)}
  {group : List Nat} {places : List Nat}

/-- A place in a group is one of the places. -/
theorem lt (h : IsPartition same n groups) (hg : group ∈ groups) {i : Nat} (hi : i ∈ group) :
    i < n :=
  List.mem_range.1 (h.perm.mem_iff.1 (List.mem_flatten.2 ⟨group, hg, hi⟩))

/-- No place stands in the groups twice. -/
theorem nodup_flatten (h : IsPartition same n groups) : groups.flatten.Nodup :=
  h.perm.nodup_iff.2 List.nodup_range

/-- No place stands in a group twice. -/
theorem nodup (h : IsPartition same n groups) (hg : group ∈ groups) : group.Nodup :=
  (List.nodup_flatten.1 h.nodup_flatten).1 group hg

/-! ### Groups as sets -/

/-- As a set, a group is the class of any of its places. -/
theorem toFinset_eq (h : IsPartition same n groups) (hg : group ∈ groups) {i : Nat}
    (hi : i ∈ group) : group.toFinset = (Finset.range n).filter fun j ↦ same i j = true := by
  ext j
  rw [List.mem_toFinset, Finset.mem_filter, Finset.mem_range]
  exact ⟨fun hj ↦ ⟨h.lt hg hj, (h.mem_iff group hg i hi j (h.lt hg hj)).1 hj⟩,
    fun ⟨hj, hij⟩ ↦ (h.mem_iff group hg i hi j hj).2 hij⟩

/-- The groups are all classes of places. -/
theorem mem_map_toFinset (h : IsPartition same n groups) {set : Finset Nat} :
    set ∈ groups.map List.toFinset ↔
      ∃ i < n, set = (Finset.range n).filter fun j ↦ same i j = true := by
  rw [List.mem_map]
  constructor
  · rintro ⟨group, hg, rfl⟩
    obtain ⟨i, hi⟩ := List.exists_mem_of_ne_nil _ (h.ne_nil group hg)
    exact ⟨i, h.lt hg hi, h.toFinset_eq hg hi⟩
  · rintro ⟨i, hi, rfl⟩
    obtain ⟨group, hg, hig⟩ := List.mem_flatten.1 (h.perm.mem_iff.2 (List.mem_range.2 hi))
    exact ⟨group, hg, h.toFinset_eq hg hig⟩

/-- No class is there twice. -/
theorem nodup_map_toFinset (h : IsPartition same n groups) : (groups.map List.toFinset).Nodup := by
  refine List.pairwise_map.2 ?_
  refine (List.nodup_flatten.1 h.nodup_flatten).2.imp_of_mem fun {g g'} hg _ hdisjoint heq ↦ ?_
  obtain ⟨i, hi⟩ := List.exists_mem_of_ne_nil _ (h.ne_nil g hg)
  exact hdisjoint hi (List.mem_toFinset.1 (heq ▸ List.mem_toFinset.2 hi))

/-- **The same classes, in another order.** -/
theorem exists_order (h : IsPartition same n groups) (h' : IsPartition same n groups') :
    ∃ order, order.Perm (List.range groups.length) ∧
      List.Forall₂ (fun group' i ↦ group'.Perm (groups.getD i [])) groups' order := by
  have hperm : (groups'.map List.toFinset).Perm (groups.map List.toFinset) :=
    (List.perm_ext_iff_of_nodup h'.nodup_map_toFinset h.nodup_map_toFinset).2 fun _ ↦
      h'.mem_map_toFinset.trans h.mem_map_toFinset.symm
  obtain ⟨order, horder, hsets⟩ := exists_order_of_perm hperm
  rw [List.length_map] at horder
  refine ⟨order, horder, ?_⟩
  rw [List.forall₂_map_left_iff] at hsets
  have hlen := hsets.length_eq
  refine List.forall₂_iff_get.2 ⟨hlen, fun j hj hj' ↦ ?_⟩
  have hset := hsets.get hj hj'
  have hi : order[j] < groups.length := List.mem_range.1 (horder.mem_iff.1 (List.getElem_mem hj'))
  simp only [List.get_eq_getElem, List.getElem?_map, List.getElem?_eq_getElem hi,
    Option.map_some, Option.some.injEq] at hset
  simp only [List.get_eq_getElem, List.getD_eq_getElem _ _ hi]
  exact List.perm_of_nodup_nodup_toFinset_eq (h'.nodup (List.getElem_mem hj))
    (h.nodup (List.getElem_mem hi)) hset.symm

/-- Classes of reordered places, put back at the places where they stood. -/
theorem putBack (hplaces : places.Perm (List.range n))
    (hsame : ∀ i < n, ∀ j < n, same' i j = same (places.getD i 0) (places.getD j 0))
    (h : IsPartition same' n groups) :
    IsPartition same n (groups.map fun group ↦ group.map (places.getD · 0)) where
  ne_nil := List.forall_mem_map.2 fun group hg ↦ mt List.map_eq_nil_iff.1 (h.ne_nil group hg)
  perm := by
    have hlen : places.length = n := hplaces.length_eq.trans List.length_range
    have hall := h.perm.map (places.getD · 0)
    rw [← hlen, map_range_getD] at hall
    rw [← List.map_flatten]
    exact hall.trans hplaces
  mem_iff := by
    have hlen : places.length = n := hplaces.length_eq.trans List.length_range
    refine List.forall_mem_map.2 fun group hg ↦ List.forall_mem_map.2 fun a ha j hj ↦ ?_
    have hlt := h.lt hg ha
    constructor
    · intro hmem
      obtain ⟨b, hb, rfl⟩ := List.mem_map.1 hmem
      rw [← hsame a hlt b (h.lt hg hb)]
      exact (h.mem_iff group hg a ha b (h.lt hg hb)).1 hb
    · intro hsamej
      -- every place is that of a reordered one
      have hj' : j ∈ (List.range places.length).map (places.getD · 0) := by
        rw [map_range_getD]
        exact hplaces.mem_iff.2 (List.mem_range.2 hj)
      obtain ⟨b, hb, rfl⟩ := List.mem_map.1 hj'
      have hb : b < n := hlen ▸ List.mem_range.1 hb
      rw [← hsame a hlt b hb] at hsamej
      exact List.mem_map_of_mem ((h.mem_iff group hg a ha b hb).2 hsamej)

end IsPartition

/-- Groups of rows that stood at the places before, put back there, are the groups in the given
order. -/
structure Regrouped (places : List Nat) (groups groups' : List (List Nat)) (order : List Nat) :
    Prop where
  perm : order.Perm (List.range groups.length)
  matched : List.Forall₂
    (fun group' i ↦ (group'.map (places.getD · 0)).Perm (groups.getD i [])) groups' order
  lt : ∀ group' ∈ groups', ∀ i ∈ group', i < places.length

namespace Regrouped

variable {places order : List Nat} {groups groups' : List (List Nat)}

/-- The matching is one to one, so there are as many groups as before. -/
theorem length_eq (h : Regrouped places groups groups' order) : groups'.length = groups.length :=
  h.matched.length_eq.trans (h.perm.length_eq.trans List.length_range)

/-- A group is matched with one that is there. -/
theorem order_lt (h : Regrouped places groups groups' order) {j : Nat} (hj : j < order.length) :
    order[j] < groups.length :=
  List.mem_range.1 (h.perm.mem_iff.1 (List.getElem_mem hj))

/-- The group that is matched with the one at a place. -/
theorem matched_at (h : Regrouped places groups groups' order) {j : Nat} (hj : j < order.length) :
    ((groups'.getD j []).map (places.getD · 0)).Perm (groups.getD order[j] []) := by
  have hj' : j < groups'.length := h.matched.length_eq ▸ hj
  have hmatch := h.matched.get hj' hj
  rwa [List.getD_eq_getElem _ _ hj']

/-- A row of a group stood in the group that is matched with it. -/
theorem mem_matched (h : Regrouped places groups groups' order) {j a : Nat} (hj : j < order.length)
    (hj' : j < groups'.length) (ha : a ∈ groups'[j]) :
    ∃ (hi : order[j] < groups.length) (hlt : a < places.length),
      places[a] ∈ groups[order[j]] := by
  have hi := h.order_lt hj
  have hlt := h.lt _ (List.getElem_mem hj') a ha
  have hmem : places.getD a 0 ∈ groups.getD order[j] [] := by
    refine (h.matched_at hj).mem_iff.1 (List.mem_map_of_mem ?_)
    rwa [List.getD_eq_getElem _ _ hj']
  rw [List.getD_eq_getElem _ _ hlt, List.getD_eq_getElem _ _ hi] at hmem
  exact ⟨hi, hlt, hmem⟩

end Regrouped

namespace Series

variable {keys : List Series} {n : Nat} {places : List Nat} {groups groups' : List (List Nat)}

/-- Reordered rows have the keys that they had where they stood. -/
theorem sameRows_select {i j : Nat} (hi : i < places.length) (hj : j < places.length) :
    sameRows (keys.map (·.select places)) i j =
      sameRows keys (places.getD i 0) (places.getD j 0) := by
  rw [List.getD_eq_getElem _ _ hi, List.getD_eq_getElem _ _ hj, Bool.eq_iff_iff,
    ← compareKeys_eq_iff, ← compareKeys_eq_iff, compareKeys_select hi hj]

/-- **Groups of reordered rows are matched with groups of the rows.** -/
theorem regrouped_of_isGrouping (hplaces : places.Perm (List.range n))
    (h : IsGrouping (sameRows keys) n groups)
    (h' : IsGrouping (sameRows (keys.map (·.select places))) n groups') :
    ∃ order, Regrouped places groups groups' order := by
  have hlen : places.length = n := hplaces.length_eq.trans List.length_range
  have hback : IsPartition (sameRows keys) n _ := h'.isPartition.putBack hplaces fun i hi j hj ↦
    sameRows_select (hlen.symm ▸ hi) (hlen.symm ▸ hj)
  obtain ⟨order, hperm, hmatched⟩ := h.isPartition.exists_order hback
  rw [List.forall₂_map_left_iff] at hmatched
  exact ⟨order, hperm, hmatched, fun group' hg i hi ↦ hlen.symm ▸ h'.lt hg hi⟩

/-- **In key order, groups are matched with those at the same place.** -/
theorem order_eq_range (h : IsGrouping (sameRows keys) n groups)
    (hne' : ∀ group' ∈ groups', group' ≠ [])
    (hkeys : (representatives groups).Pairwise fun i j ↦ compareKeys keys i j = .lt)
    (hkeys' : (representatives groups').Pairwise fun i j ↦
      compareKeys (keys.map (·.select places)) i j = .lt)
    {order : List Nat} (hregrouped : Regrouped places groups groups' order) :
    order = List.range groups.length := by
  have hreps := forall₂_representatives h.ne_nil
  have hreps' := forall₂_representatives hne'
  -- the representative of a group has the key of the one that it is matched with
  have hsame (j : Nat) (hj : j < order.length) :
      ∃ (hi : order[j] < (representatives groups).length)
        (hj' : j < (representatives groups').length)
        (hlt : (representatives groups')[j] < places.length),
        compareKeys keys places[(representatives groups')[j]] (representatives groups)[order[j]] =
          .eq := by
    have hj' : j < groups'.length := hregrouped.matched.length_eq.symm ▸ hj
    have hj'' : j < (representatives groups').length := hreps'.length_eq.symm ▸ hj'
    have hrep' : (representatives groups')[j] ∈ groups'[j] := hreps'.get hj'' hj'
    obtain ⟨hi, hlt, hmem⟩ := hregrouped.mem_matched hj hj' hrep'
    have hi' : order[j] < (representatives groups).length := hreps.length_eq.symm ▸ hi
    have hrep : (representatives groups)[order[j]] ∈ groups[order[j]] := hreps.get hi' hi
    have hg := List.getElem_mem hi
    exact ⟨hi', hj'', hlt,
      compareKeys_eq_iff.2 ((h.mem_iff _ hg _ hmem _ (h.lt hg hrep)).1 hrep)⟩
  have hascending : order.Pairwise (· < ·) := by
    refine List.pairwise_iff_getElem.2 fun a b ha hb hab ↦ ?_
    obtain ⟨hia, ha', hlta, heqa⟩ := hsame a ha
    obtain ⟨hib, hb', hltb, heqb⟩ := hsame b hb
    have hlt := List.pairwise_iff_getElem.1 hkeys' a b ha' hb' hab
    rw [compareKeys_select hlta hltb, Std.TransCmp.congr_left heqa,
      Std.TransCmp.congr_right heqb] at hlt
    rcases Nat.lt_trichotomy order[a] order[b] with hcmp | hcmp | hcmp
    · exact hcmp
    · simp only [hcmp, Std.ReflCmp.compare_self] at hlt
      cases hlt
    · have hgt := List.pairwise_iff_getElem.1 hkeys _ _ hib hia hcmp
      rw [Std.OrientedCmp.gt_of_lt hgt] at hlt
      cases hlt
  exact List.Perm.eq_of_pairwise (fun a b _ _ hab hba ↦ absurd hab (Nat.lt_asymm hba)) hascending
    List.pairwise_lt_range hregrouped.perm

end Series

end Tabular
