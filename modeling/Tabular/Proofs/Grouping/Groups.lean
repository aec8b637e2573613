import Mathlib.Data.List.Pairwise
import Tabular.GroupBy
import Tabular.Proofs.Rows.Selection

/-!
# Groups of rows

The groups that a grouping makes are the classes of the rows with equal keys (`IsGrouping`): they
have rows, which stand in their original order, every row is in exactly one of them, and a row is in
the group of another exactly when their keys are equal.

Rows are grouped one after the other (`Series.addToGroups`), and a row is compared with the first of
each group only. That this is enough rests on equal keys being an equivalence
(`Series.equivalence_sameRows`). What one row preserves is `Series.AreGrouped.step`: the groups have
all rows so far, in ascending order, rows within a group are equal and rows of two groups are not.
All rows have been added in the end (`Series.areGrouped_groupPlaces`), whatever the order in which
the groups are then put (`Series.isGrouping_groupRows`).
-/

namespace Tabular

/-- The groups are the classes of the places `0, …, n - 1` that are the same: `same` tells two
places of one class. -/
structure IsGrouping (same : Nat → Nat → Bool) (n : Nat) (groups : List (List Nat)) : Prop where
  ne_nil : ∀ group ∈ groups, group ≠ []
  /-- The rows of a group keep their order. -/
  ascending : ∀ group ∈ groups, group.Pairwise (· < ·)
  /-- Every place is in exactly one group. -/
  perm : groups.flatten.Perm (List.range n)
  mem_iff : ∀ group ∈ groups, ∀ i ∈ group, ∀ j < n, j ∈ group ↔ same i j = true

namespace IsGrouping

variable {same : Nat → Nat → Bool} {n : Nat} {groups groups' : List (List Nat)}

/-- A place in a group is one of the places. -/
theorem lt (h : IsGrouping same n groups) {group : List Nat} (hg : group ∈ groups) {i : Nat}
    (hi : i ∈ group) : i < n :=
  List.mem_range.1 (h.perm.mem_iff.1 (List.mem_flatten.2 ⟨group, hg, hi⟩))

/-- Every place is in a group. -/
theorem exists_mem (h : IsGrouping same n groups) {i : Nat} (hi : i < n) :
    ∃ group ∈ groups, i ∈ group :=
  List.mem_flatten.1 (h.perm.mem_iff.2 (List.mem_range.2 hi))

/-- There are groups exactly if there are places. -/
theorem ne_nil_iff (h : IsGrouping same n groups) : groups ≠ [] ↔ 0 < n := by
  constructor
  · intro hne
    obtain ⟨group, hg⟩ := List.exists_mem_of_ne_nil _ hne
    obtain ⟨i, hi⟩ := List.exists_mem_of_ne_nil _ (h.ne_nil group hg)
    exact Nat.zero_lt_of_lt (h.lt hg hi)
  · rintro hpos rfl
    have hlen : 0 = n := by simpa using h.perm.length_eq
    omega

/-- The order of the groups is no matter. -/
theorem of_perm (h : IsGrouping same n groups) (hp : groups'.Perm groups) :
    IsGrouping same n groups' where
  ne_nil group hg := h.ne_nil group (hp.mem_iff.1 hg)
  ascending group hg := h.ascending group (hp.mem_iff.1 hg)
  perm := hp.flatten.trans h.perm
  mem_iff group hg := h.mem_iff group (hp.mem_iff.1 hg)

end IsGrouping

namespace Series

section Places

variable {same : Nat → Nat → Bool} {i : Nat} {groups : List (List Nat)}

/-- Adding a place adds this place and no other. -/
theorem flatten_addToGroups (same : Nat → Nat → Bool) (i : Nat) (groups : List (List Nat)) :
    (addToGroups same i groups).flatten.Perm (i :: groups.flatten) := by
  induction groups with
  | nil => exact .refl _
  | cons group rest ih =>
    unfold addToGroups
    split
    · rw [List.flatten_cons, List.append_assoc, List.flatten_cons]
      exact List.perm_middle
    · rw [List.flatten_cons, List.flatten_cons]
      exact (ih.append_left group).trans List.perm_middle

/-- A group afterwards was there before, is that of the place alone, or has the place at its end. -/
theorem mem_addToGroups {group : List Nat} (hg : group ∈ addToGroups same i groups) :
    group ∈ groups ∨ group = [i] ∨ ∃ g ∈ groups, group = g ++ [i] := by
  induction groups with
  | nil => exact .inr (.inl (List.mem_singleton.1 hg))
  | cons g rest ih =>
    unfold addToGroups at hg
    split at hg
    · rcases List.mem_cons.1 hg with rfl | hg
      · exact .inr (.inr ⟨g, List.mem_cons_self, rfl⟩)
      · exact .inl (List.mem_cons_of_mem _ hg)
    · rcases List.mem_cons.1 hg with rfl | hg
      · exact .inl List.mem_cons_self
      · rcases ih hg with hg | rfl | ⟨g', hg', rfl⟩
        · exact .inl (List.mem_cons_of_mem _ hg)
        · exact .inr (.inl rfl)
        · exact .inr (.inr ⟨g', List.mem_cons_of_mem _ hg', rfl⟩)

/-- The groups are classes, of whatever places: members of one are the same, members of two are
not. -/
structure AreClasses (same : Nat → Nat → Bool) (groups : List (List Nat)) : Prop where
  within : ∀ group ∈ groups, ∀ i ∈ group, ∀ j ∈ group, same i j = true
  apart : groups.Pairwise fun g h ↦ ∀ i ∈ g, ∀ j ∈ h, same i j = false

/-- A place added to its class, or as one of its own, leaves classes. -/
theorem AreClasses.add (he : Equivalence fun i j ↦ same i j = true)
    (hne : ∀ group ∈ groups, group ≠ []) (h : AreClasses same groups) :
    AreClasses same (addToGroups same i groups) := by
  -- places the same as one of two that are apart are apart from the other
  have hapart {a b c : Nat} (hab : same a b = true) (hac : same a c = false) :
      same b c = false := by
    by_contra hbc
    rw [Bool.not_eq_false] at hbc
    exact absurd (he.trans hab hbc) (hac ▸ Bool.false_ne_true)
  induction groups with
  | nil =>
    refine ⟨fun group hg a ha b hb ↦ ?_, List.pairwise_singleton _ _⟩
    rw [List.mem_singleton.1 hg] at ha hb
    rw [List.mem_singleton.1 ha, List.mem_singleton.1 hb]
    exact he.refl i
  | cons group rest ih =>
    obtain ⟨hwithin, hpair⟩ := h
    obtain ⟨hfirst, hrest⟩ := List.pairwise_cons.1 hpair
    obtain ⟨a, as, rfl⟩ := List.exists_cons_of_ne_nil (hne group List.mem_cons_self)
    have hgroup := hwithin _ List.mem_cons_self
    have hclasses : AreClasses same rest :=
      ⟨fun g hg ↦ hwithin g (List.mem_cons_of_mem _ hg), hrest⟩
    have hadd := ih (fun g hg ↦ hne g (List.mem_cons_of_mem _ hg)) hclasses
    unfold addToGroups
    split
    · next hsame =>
      -- the place joins the first group, all of whose members are the same as its first
      have hai : same a i = true := hsame
      have hmem {b : Nat} (hb : b ∈ a :: as ++ [i]) : same a b = true := by
        rcases List.mem_append.1 hb with hb | hb
        · exact hgroup a List.mem_cons_self b hb
        · exact (List.mem_singleton.1 hb) ▸ hai
      refine ⟨List.forall_mem_cons.2 ⟨fun b hb c hc ↦ ?_, hclasses.within⟩, ?_⟩
      · exact he.trans (he.symm (hmem hb)) (hmem hc)
      · refine List.pairwise_cons.2 ⟨fun g hg b hb c hc ↦ ?_, hrest⟩
        exact hapart (hmem hb) (hfirst g hg a List.mem_cons_self c hc)
    · next hsame =>
      -- the place goes to a later group, and stays apart from the first
      have hai : same a i = false := by simpa using hsame
      refine ⟨List.forall_mem_cons.2 ⟨hgroup, hadd.within⟩, ?_⟩
      refine List.pairwise_cons.2 ⟨fun g hg b hb c hc ↦ ?_, hadd.apart⟩
      have hc' : c ∈ i :: rest.flatten :=
        (flatten_addToGroups same i rest).mem_iff.1 (List.mem_flatten.2 ⟨g, hg, hc⟩)
      refine hapart (hgroup a List.mem_cons_self b hb) ?_
      rcases List.mem_cons.1 hc' with rfl | hc'
      · exact hai
      · obtain ⟨g', hg', hc'⟩ := List.mem_flatten.1 hc'
        exact hfirst g' hg' a List.mem_cons_self c hc'

/-- The first `n` places are in groups, each in ascending order, and the groups are classes. -/
structure AreGrouped (same : Nat → Nat → Bool) (n : Nat) (groups : List (List Nat)) : Prop where
  ne_nil : ∀ group ∈ groups, group ≠ []
  ascending : ∀ group ∈ groups, group.Pairwise (· < ·)
  perm : groups.flatten.Perm (List.range n)
  classes : AreClasses same groups

/-- The next place is grouped. -/
theorem AreGrouped.step {n : Nat} (he : Equivalence fun i j ↦ same i j = true)
    (h : AreGrouped same n groups) : AreGrouped same (n + 1) (addToGroups same n groups) where
  ne_nil group hg := by
    rcases mem_addToGroups hg with hg | rfl | ⟨g, _, rfl⟩
    · exact h.ne_nil group hg
    · exact List.cons_ne_nil _ _
    · exact List.append_ne_nil_of_right_ne_nil _ (List.cons_ne_nil _ _)
  ascending group hg := by
    rcases mem_addToGroups hg with hg | rfl | ⟨g, hold, rfl⟩
    · exact h.ascending group hg
    · exact List.pairwise_singleton _ _
    · -- the new place comes last, and all others are below it
      refine List.pairwise_append.2
        ⟨h.ascending g hold, List.pairwise_singleton _ _, fun i hi j hj ↦ ?_⟩
      rw [List.mem_singleton.1 hj]
      exact List.mem_range.1 (h.perm.mem_iff.1 (List.mem_flatten.2 ⟨g, hold, hi⟩))
  perm := by
    rw [List.range_succ]
    exact (flatten_addToGroups same n _).trans
      ((h.perm.cons n).trans (List.perm_append_singleton n _).symm)
  classes := h.classes.add he h.ne_nil

/-- Places are grouped one after the other. -/
theorem groupPlaces_succ (same : Nat → Nat → Bool) (n : Nat) :
    groupPlaces same (n + 1) = addToGroups same n (groupPlaces same n) := by
  rw [groupPlaces, List.range_succ, List.foldl_append]
  rfl

/-- All places are grouped in the end. -/
theorem areGrouped_groupPlaces (he : Equivalence fun i j ↦ same i j = true) (n : Nat) :
    AreGrouped same n (groupPlaces same n) := by
  induction n with
  | zero => exact ⟨nofun, nofun, .refl _, ⟨nofun, .nil⟩⟩
  | succ n ih =>
    rw [groupPlaces_succ]
    exact ih.step he

/-- Places are grouped by their classes, if `same` is an equivalence. -/
theorem isGrouping_groupPlaces (he : Equivalence fun i j ↦ same i j = true) (n : Nat) :
    IsGrouping same n (groupPlaces same n) := by
  obtain ⟨hne, hasc, hperm, hclasses⟩ := areGrouped_groupPlaces he n
  refine ⟨hne, hasc, hperm, fun g hg i hi j hj ↦ ⟨fun hjg ↦ hclasses.within g hg i hi j hjg, ?_⟩⟩
  intro hij
  -- a place of the same class is in some group, and no other than this
  obtain ⟨h, hh, hjh⟩ := List.mem_flatten.1 (hperm.mem_iff.2 (List.mem_range.2 hj))
  by_contra hjg
  have hgh : g ≠ h := by
    rintro rfl
    exact hjg hjh
  have hsymm (i j : Nat) : same i j = same j i := Bool.eq_iff_iff.2 ⟨he.symm, he.symm⟩
  have : Std.Symm fun g h : List Nat ↦ ∀ i ∈ g, ∀ j ∈ h, same i j = false :=
    ⟨fun g h hgh i hi j hj ↦ (hsymm i j).trans (hgh j hj i hi)⟩
  have hapart : same i j = false := hclasses.apart.forall hg hh hgh i hi j hjh
  exact absurd hij (hapart ▸ Bool.false_ne_true)

end Places

/-- Rows are the same for all keys if each key has the same value there. -/
theorem sameRows_iff {keys : List Series} {i j : Nat} :
    sameRows keys i j = true ↔ ∀ s ∈ keys, s.select [i] = s.select [j] := by
  simp only [sameRows, samePlaces, List.all_map, List.all_eq_true, Function.comp_apply,
    decide_eq_true_eq, select_eq, List.map_singleton, Series.mk.injEq, heq_eq_eq, true_and,
    List.cons.injEq, and_true, List.getElem?_toArray]

/-- Rows with equal keys are an equivalence of places. -/
theorem equivalence_sameRows (keys : List Series) :
    Equivalence fun i j ↦ sameRows keys i j = true := by
  simp only [sameRows_iff]
  exact ⟨fun _ _ _ ↦ rfl, fun h s hs ↦ (h s hs).symm, fun h h' s hs ↦ (h s hs).trans (h' s hs)⟩

/-- Each group is represented by one of its places. -/
theorem forall₂_representatives {groups : List (List Nat)} (h : ∀ group ∈ groups, group ≠ []) :
    List.Forall₂ (fun i group ↦ i ∈ group) (representatives groups) groups := by
  induction groups with
  | nil => exact .nil
  | cons group groups ih =>
    obtain ⟨i, is, rfl⟩ := List.exists_cons_of_ne_nil (h group List.mem_cons_self)
    exact .cons List.mem_cons_self (ih fun g hg ↦ h g (List.mem_cons_of_mem _ hg))

/-- Keys of one length have this number of rows. -/
theorem keyRows_eq_ok {keys : List Series} {n : Nat} (hne : keys ≠ [])
    (h : ∀ s ∈ keys, s.length = n) : keyRows keys = .ok n := by
  obtain ⟨first, rest, rfl⟩ := List.exists_cons_of_ne_nil hne
  have hfirst := h first List.mem_cons_self
  have hrest := any_length_ne fun s hs ↦ h s (List.mem_cons_of_mem _ hs)
  rw [keyRows, hfirst, hrest]
  rfl

/-- Groups in the order of the keys of their first rows. -/
def sortGroups (keys : List Series) (groups : List (List Nat)) : List (List Nat) :=
  groups.mergeSort fun g h ↦ compareKeys keys (g.headD 0) (h.headD 0) != .gt

/-- Sorting groups loses none. -/
theorem sortGroups_perm (keys : List Series) (groups : List (List Nat)) :
    (sortGroups keys groups).Perm groups :=
  List.mergeSort_perm _ _

/-- Groups are in order of first appearance, or in key order. -/
theorem groupRows_eq_ok {keys : List Series} {n : Nat} (hne : keys ≠ [])
    (h : ∀ s ∈ keys, s.length = n) (sorted : Bool) :
    groupRows keys sorted = .ok (
      if sorted then sortGroups keys (groupPlaces (sameRows keys) n)
      else groupPlaces (sameRows keys) n) := by
  unfold groupRows
  rw [keyRows_eq_ok hne h, Outcome.ok_bind]
  split
  · exact absurd rfl hne
  · rfl

/-- **Rows are grouped by their keys**, in the order of the keys or of first appearance. -/
theorem isGrouping_groupRows {keys : List Series} {n : Nat} (hne : keys ≠ [])
    (h : ∀ s ∈ keys, s.length = n) (sorted : Bool) :
    ∃ groups, groupRows keys sorted = .ok groups ∧ IsGrouping (sameRows keys) n groups := by
  have hgrouping := isGrouping_groupPlaces (equivalence_sameRows keys) n
  refine ⟨_, groupRows_eq_ok hne h sorted, ?_⟩
  cases sorted with
  | true => exact hgrouping.of_perm (sortGroups_perm _ _)
  | false => exact hgrouping

end Series

namespace GroupBy

/-- The groups of the rows of a frame. -/
def rowGroups (g : GroupBy) (f : Frame) : Outcome (List (List Nat)) := do
  groups g.maintainOrder f (← g.keySeries f)

variable {g : GroupBy} {f : Frame}

/-- The key series have as many rows as the frame. -/
theorem length_keySeries {keys : List Series} (h : g.keySeries f = .ok keys) :
    keys.length = g.keys.length ∧ ∀ s ∈ keys, s.length = f.rows := by
  obtain ⟨columns, hcolumns, hkeys⟩ := Outcome.bind_eq_ok.1 h
  constructor
  · rw [← (Outcome.mapM_eq_ok.1 hkeys).length_eq, (Outcome.mapM_eq_ok.1 hcolumns).length_eq]
  · intro s hs
    obtain ⟨c, -, hc⟩ := Outcome.exists_of_mem_result hkeys hs
    exact Series.length_broadcast hc

/-- **The groups of a frame** by the keys of a grouping, if there are keys. -/
theorem groups_of_keys {keys : List Series} (hkeys : g.keySeries f = .ok keys)
    (hne : g.keys ≠ []) :
    ∃ groups, GroupBy.groups g.maintainOrder f keys = .ok groups ∧
      IsGrouping (Series.sameRows keys) f.rows groups := by
  obtain ⟨hcount, hlen⟩ := length_keySeries hkeys
  have hne' : keys ≠ [] := by
    rintro rfl
    exact hne (List.length_eq_zero_iff.1 hcount.symm)
  have hempty : keys.isEmpty = false := by simpa using hne'
  unfold GroupBy.groups
  rw [hempty]
  exact Series.isGrouping_groupRows hne' hlen (!g.maintainOrder)

/-- The same of groups that are known. -/
theorem isGrouping_of_groups {keys : List Series} {groups : List (List Nat)}
    (hkeys : g.keySeries f = .ok keys) (hne : g.keys ≠ [])
    (h : GroupBy.groups g.maintainOrder f keys = .ok groups) :
    IsGrouping (Series.sameRows keys) f.rows groups := by
  obtain ⟨groups', hgroups', hgrouping⟩ := groups_of_keys hkeys hne
  rw [h] at hgroups'
  injection hgroups' with hgroups'
  exact hgroups' ▸ hgrouping

/-- There is no group just if there are keys but no rows. -/
theorem groups_eq_nil_iff {keys : List Series} {groups : List (List Nat)}
    (hkeys : g.keySeries f = .ok keys)
    (h : GroupBy.groups g.maintainOrder f keys = .ok groups) :
    groups = [] ↔ g.keys ≠ [] ∧ f.rows = 0 := by
  by_cases hne : g.keys = []
  · obtain rfl : keys = [] := by
      obtain ⟨hcount, -⟩ := length_keySeries hkeys
      rwa [hne, List.length_nil, List.length_eq_zero_iff] at hcount
    injection h with h
    exact iff_of_false (h ▸ List.cons_ne_nil _ _) fun hno ↦ hno.1 hne
  · have hgrouping := isGrouping_of_groups hkeys hne h
    rw [and_iff_right hne]
    exact Decidable.not_iff_not.1 (hgrouping.ne_nil_iff.trans Nat.pos_iff_ne_zero)

end GroupBy

end Tabular
