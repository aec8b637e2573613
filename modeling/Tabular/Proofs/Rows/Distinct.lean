import Tabular.Proofs.Expr.Values
import Tabular.Proofs.Grouping.Partition
import Tabular.Proofs.Order.Sorting

/-!
# Distinct rows

Which of several equal rows is kept is found in one pass over the rows, which notes for each kind of
row where it was met first and last and how often. The pass goes through the same steps as the one
that puts the rows into groups, and what it notes of a kind of row is what the group of these rows
has at its ends (`Series.sightings_eq_map`). So what is known of groups says which places are kept:
those that no equal row keeps out (`Keep.Excludes`), be it an earlier one, a later one or any other
(`Series.mem_distinctPlaces`).

The flags of distinctness mark the places that are kept, or all others. A first row and a last row
is kept of every kind, and kept once (`Series.mem_keptRows`, `Series.nodup_keptRows`), and so there
are as many of either as there are kinds of rows. `Series.MarksDistinct` says what the flags tell of
the rows, and `Expr.marksDistinct_values` that those of an expression do.
-/

namespace Tabular

/-! ### The pass over the rows -/

/-- What the pass notes of the rows at the places of a group. -/
def Sighting.ofGroup (group : List Nat) : Sighting :=
  ⟨group.headD 0, group.getLastD 0, group.length⟩

/-- A row at the first place keeps an equal one at the second place out. -/
def Keep.Excludes : Keep → Nat → Nat → Prop
  | first, j, i => j < i
  | last, j, i => i < j
  | none, j, i => j ≠ i

namespace Keep

variable {keep : Keep} {group : List Nat} {i j : Nat}

/-- Places of which neither keeps the other one out are one place. -/
theorem eq_of_not_excludes (hij : ¬keep.Excludes i j) (hji : ¬keep.Excludes j i) : i = j := by
  cases keep with
  | first | last =>
    simp only [Excludes] at hij hji
    omega
  | none => exact not_not.1 hij

/-- Of every group a place is kept, unless the rows with an equal one are dropped. -/
theorem exists_place? (hkeep : keep ≠ none) (seen : Sighting) : ∃ i, keep.place? seen = some i := by
  cases keep with
  | first | last => exact ⟨_, rfl⟩
  | none => exact absurd rfl hkeep

/-- No place of a group keeps the one out that is kept of it. -/
theorem not_excludes_of_place? (hasc : group.Pairwise (· < ·)) (hne : group ≠ [])
    (h : keep.place? (.ofGroup group) = some i) :
    i ∈ group ∧ ∀ j ∈ group, ¬keep.Excludes j i := by
  -- The group is ascending, so that its first place is the least and its last the greatest.
  cases keep with
  | first =>
    obtain ⟨a, as, rfl⟩ := List.exists_cons_of_ne_nil hne
    obtain rfl : a = i := Option.some_inj.1 h
    have hhead := (List.pairwise_cons.1 hasc).1
    exact ⟨List.mem_cons_self, List.forall_mem_cons.2
      ⟨Nat.lt_irrefl _, fun j hj ↦ Nat.lt_asymm (hhead j hj)⟩⟩
  | last =>
    obtain ⟨as, a, rfl⟩ := (List.eq_nil_or_concat' group).resolve_left hne
    obtain rfl : a = i := List.getLastD_concat.symm.trans (Option.some_inj.1 h)
    have hlast := (List.pairwise_append.1 hasc).2.2
    refine ⟨List.mem_append_right _ (List.mem_singleton_self a), fun j hj ↦ ?_⟩
    rcases List.mem_append.1 hj with hj | hj
    · exact Nat.lt_asymm (hlast j hj a (List.mem_singleton_self a))
    · exact List.mem_singleton.1 hj ▸ Nat.lt_irrefl _
  | none =>
    obtain ⟨hcount, hfirst⟩ := Option.ite_none_right_eq_some.1 h
    obtain ⟨a, rfl⟩ := List.length_eq_one_iff.1 hcount
    obtain rfl : a = i := Option.some_inj.1 hfirst
    exact ⟨List.mem_singleton_self a, List.forall_mem_singleton.2 (not_not_intro rfl)⟩

/-- If no place of a group keeps one of them out, a place is kept of it. -/
theorem exists_place?_of_not_excludes (hasc : group.Pairwise (· < ·)) (hi : i ∈ group)
    (hno : ∀ j ∈ group, ¬keep.Excludes j i) : ∃ k, keep.place? (.ofGroup group) = some k := by
  by_cases hkeep : keep = none
  · subst hkeep
    -- the group is this place alone
    have hall : ∀ j ∈ group, j = i := fun j hj ↦ not_not.1 (hno j hj)
    match group with
    | [a] => exact ⟨a, rfl⟩
    | a :: b :: as =>
      have hlt : a < b := (List.pairwise_cons.1 hasc).1 b List.mem_cons_self
      have hsame : a = b := (hall a List.mem_cons_self).trans
        (hall b (List.mem_cons_of_mem a List.mem_cons_self)).symm
      exact absurd hsame (Nat.ne_of_lt hlt)
  · exact exists_place? hkeep _

/-- **The place that is kept of a group** is the one that no place of it keeps out. -/
theorem place?_ofGroup (hasc : group.Pairwise (· < ·)) (hne : group ≠ []) :
    keep.place? (.ofGroup group) = some i ↔ i ∈ group ∧ ∀ j ∈ group, ¬keep.Excludes j i := by
  refine ⟨not_excludes_of_place? hasc hne, fun ⟨hi, hno⟩ ↦ ?_⟩
  obtain ⟨k, hk⟩ := exists_place?_of_not_excludes hasc hi hno
  obtain ⟨hkmem, hkno⟩ := not_excludes_of_place? hasc hne hk
  rw [hk, eq_of_not_excludes (hno k hkmem) (hkno i hi)]

end Keep

namespace Series

section Places

variable {same : Nat → Nat → Bool} {keep : Keep} {groups : List (List Nat)} {n i : Nat}

/-- A place enters what was noted of the groups as it enters the groups. -/
theorem see_map_ofGroup (hne : ∀ group ∈ groups, group ≠ []) :
    see same i (groups.map .ofGroup) = (addToGroups same i groups).map .ofGroup := by
  induction groups with
  | nil => rfl
  | cons group groups ih =>
    obtain ⟨a, as, rfl⟩ := List.exists_cons_of_ne_nil (hne group List.mem_cons_self)
    rw [List.map_cons, see, addToGroups, ih fun g hg ↦ hne g (List.mem_cons_of_mem _ hg)]
    by_cases hsame : same a i = true
    · have hseen : (⟨a, i, (a :: as).length + 1⟩ : Sighting) = .ofGroup (a :: as ++ [i]) := by
        rw [Sighting.ofGroup, List.getLastD_concat, List.length_append]
        rfl
      simp only [Sighting.ofGroup, List.headD_cons, List.head?_cons, Option.map_some,
        Option.getD_some, hsame, if_true, List.map_cons]
      exact congrArg (· :: _) hseen
    · simp [Sighting.ofGroup, hsame]

/-- **The pass notes the ends and the size of every group.** -/
theorem sightings_eq_map (he : Equivalence fun i j ↦ same i j = true) (n : Nat) :
    sightings same n = (groupPlaces same n).map .ofGroup := by
  induction n with
  | zero => rfl
  | succ n ih =>
    have hstep : sightings same (n + 1) = see same n (sightings same n) := by
      rw [sightings, List.range_succ, List.foldl_append]
      rfl
    rw [hstep, ih, groupPlaces_succ, see_map_ofGroup (areGrouped_groupPlaces he n).ne_nil]

/-- The place that is kept of a group is in it and is kept out by none of it. -/
theorem place?_ofGroup_iff (he : Equivalence fun i j ↦ same i j = true) {group : List Nat}
    (hg : group ∈ groupPlaces same n) :
    keep.place? (.ofGroup group) = some i ↔ i ∈ group ∧ ∀ j ∈ group, ¬keep.Excludes j i :=
  have hgrouping := isGrouping_groupPlaces he n
  Keep.place?_ofGroup (hgrouping.ascending group hg) (hgrouping.ne_nil group hg)

/-- The places that are kept are those of the groups. -/
theorem mem_distinctPlaces_iff_group (he : Equivalence fun i j ↦ same i j = true) :
    i ∈ distinctPlaces same keep n ↔
      ∃ group ∈ groupPlaces same n, i ∈ group ∧ ∀ j ∈ group, ¬keep.Excludes j i := by
  simp only [distinctPlaces, List.mem_filter, List.mem_range, List.contains_iff_mem,
    List.mem_filterMap, sightings_eq_map he, List.mem_map]
  constructor
  · rintro ⟨-, _, ⟨group, hg, rfl⟩, hplace⟩
    exact ⟨group, hg, (place?_ofGroup_iff he hg).1 hplace⟩
  · rintro ⟨group, hg, hi⟩
    exact ⟨(isGrouping_groupPlaces he n).lt hg hi.1, _, ⟨group, hg, rfl⟩,
      (place?_ofGroup_iff he hg).2 hi⟩

/-- **A place is kept unless an equal row keeps it out.** -/
theorem mem_distinctPlaces (he : Equivalence fun i j ↦ same i j = true) :
    i ∈ distinctPlaces same keep n ↔
      i < n ∧ ∀ j < n, same i j = true → ¬keep.Excludes j i := by
  have hgrouping := isGrouping_groupPlaces he n
  rw [mem_distinctPlaces_iff_group he]
  constructor
  · rintro ⟨group, hg, hi, hno⟩
    exact ⟨hgrouping.lt hg hi, fun j hj hij ↦ hno j ((hgrouping.mem_iff group hg i hi j hj).2 hij)⟩
  · rintro ⟨hi, hno⟩
    obtain ⟨group, hg, hig⟩ := hgrouping.exists_mem hi
    exact ⟨group, hg, hig, fun j hj ↦ hno j (hgrouping.lt hg hj)
      ((hgrouping.mem_iff group hg i hig j (hgrouping.lt hg hj)).1 hj)⟩

/-- A first and a last row is kept of every kind. -/
theorem exists_mem_distinctPlaces (he : Equivalence fun i j ↦ same i j = true)
    (hkeep : keep ≠ .none) (hi : i < n) : ∃ k ∈ distinctPlaces same keep n, same i k = true := by
  have hgrouping := isGrouping_groupPlaces he n
  obtain ⟨group, hg, hig⟩ := hgrouping.exists_mem hi
  obtain ⟨k, hk⟩ := Keep.exists_place? hkeep (.ofGroup group)
  rw [place?_ofGroup_iff he hg] at hk
  exact ⟨k, (mem_distinctPlaces_iff_group he).2 ⟨group, hg, hk⟩,
    (hgrouping.mem_iff group hg i hig k (hgrouping.lt hg hk.1)).1 hk.1⟩

end Places

/-! ### The rows that are kept -/

section Rows

variable {s : Series} {keep : Keep} {i j : Nat}

/-- Places are the same if their rows are equal. -/
theorem samePlaces_iff : s.samePlaces i j = true ↔ s.valueAt i = s.valueAt j := by
  rw [samePlaces, decide_eq_true_eq, List.getElem?_toArray, List.getElem?_toArray]
  rfl

/-- Equal rows are an equivalence of places. -/
theorem equivalence_samePlaces (s : Series) : Equivalence fun i j ↦ s.samePlaces i j = true := by
  simp only [samePlaces_iff]
  exact ⟨fun _ ↦ rfl, Eq.symm, Eq.trans⟩

/-- The rows of a series that are kept, in their order. -/
def keptRows (s : Series) (keep : Keep) : List (Option s.dtype.Value) :=
  (distinctPlaces s.samePlaces keep s.length).map s.valueAt

/-- **Every row is kept**, at its first or its last place. -/
theorem mem_keptRows (hkeep : keep ≠ .none) {row : Option s.dtype.Value} :
    row ∈ s.keptRows keep ↔ row ∈ s.rows := by
  have hrows : row ∈ s.rows ↔ ∃ i < s.length, s.valueAt i = row := by
    conv_lhs => rw [← map_range_rows s]
    simp only [List.mem_map, List.mem_range]
    rfl
  rw [hrows, keptRows, List.mem_map]
  constructor
  · rintro ⟨k, hk, rfl⟩
    exact ⟨k, ((mem_distinctPlaces (equivalence_samePlaces s)).1 hk).1, rfl⟩
  · rintro ⟨i, hi, rfl⟩
    obtain ⟨k, hk, hik⟩ := exists_mem_distinctPlaces (equivalence_samePlaces s) hkeep hi
    exact ⟨k, hk, (samePlaces_iff.1 hik).symm⟩

theorem nodup_distinctPlaces (s : Series) (keep : Keep) :
    (distinctPlaces s.samePlaces keep s.length).Nodup :=
  List.nodup_range.filter _

/-- **No row is kept twice.** -/
theorem nodup_keptRows (s : Series) (keep : Keep) : (s.keptRows keep).Nodup := by
  refine (nodup_distinctPlaces s keep).map_on fun i hi j hj hij ↦ ?_
  rw [mem_distinctPlaces (equivalence_samePlaces s)] at hi hj
  exact Keep.eq_of_not_excludes (hj.2 i hi.1 (samePlaces_iff.2 hij.symm))
    (hi.2 j hj.1 (samePlaces_iff.2 hij))

/-- As many rows are kept as there are distinct ones. -/
theorem length_distinctPlaces (hkeep : keep ≠ .none) :
    (distinctPlaces s.samePlaces keep s.length).length = s.countDistinct := by
  have hset : (s.keptRows keep).toFinset = s.rows.toFinset := by
    ext row
    rw [List.mem_toFinset, List.mem_toFinset, mem_keptRows hkeep]
  rw [countDistinct_eq_card, ← hset, List.toFinset_card_of_nodup (nodup_keptRows s keep), keptRows,
    List.length_map]

end Rows

/-! ### Flags -/

section Flags

variable {places : List Nat} {value : Bool} {n i : Nat}

/-- A flag is set at the places, and at no others. -/
theorem getElem?_scatterFlags (hi : i < n) :
    (scatterFlags n places value)[i]? = some (if i ∈ places then value else !value) := by
  simp [scatterFlags, hi]

/-- The flags are negated all at once. -/
theorem scatterFlags_false :
    scatterFlags n places false = (scatterFlags n places true).map not := by
  simp [scatterFlags, Function.comp_def]

/-- As many flags are set as there are places. -/
theorem count_scatterFlags (hplaces : places.Nodup) (hlt : ∀ i ∈ places, i < n) :
    (scatterFlags n places true).count true = places.length := by
  have hperm : ((List.range n).filter places.contains).Perm places := by
    refine (List.perm_ext_iff_of_nodup (List.nodup_range.filter _) hplaces).2 fun i ↦ ?_
    simpa using hlt i
  rw [← hperm.length_eq, ← List.countP_eq_length_filter, List.count, scatterFlags, List.countP_map]
  exact List.countP_congr fun i _ ↦ by simp

/-- What the flags of distinctness say of the rows of a series. Nulls are equal to one another. -/
structure MarksDistinct (s : Series) (first last unique duplicated : List Bool) : Prop where
  length : ∀ flags ∈ [first, last, unique, duplicated], flags.length = s.length
  /-- A first row has no equal one before it. -/
  first_iff : ∀ i < s.length, first[i]? = some true ↔ ¬∃ j < i, s.EqualAt i j
  /-- A last row has no equal one after it. -/
  last_iff : ∀ i < s.length, last[i]? = some true ↔ ¬∃ j < s.length, i < j ∧ s.EqualAt i j
  /-- A unique row has no equal one elsewhere. -/
  unique_iff : ∀ i < s.length, unique[i]? = some true ↔ ¬∃ j < s.length, j ≠ i ∧ s.EqualAt i j
  /-- A duplicated row is one that is not unique. -/
  duplicated : duplicated = unique.map not
  count_first : first.count true = s.countDistinct
  count_last : last.count true = s.countDistinct

/-- The flags of a column for a policy. -/
def keptFlags (s : Series) (keep : Keep) : List Bool :=
  scatterFlags s.length (distinctPlaces s.samePlaces keep s.length) true

/-- A row is marked unless an equal one keeps it out. -/
theorem getElem?_keptFlags {s : Series} {keep : Keep} (hi : i < s.length) :
    (s.keptFlags keep)[i]? = some true ↔
      ¬∃ j < s.length, keep.Excludes j i ∧ s.EqualAt i j := by
  have hequal (j : Nat) : s.EqualAt i j ↔ s.samePlaces i j = true := by
    rw [samePlaces_iff, equalAt_iff, select_eq, select_eq]
    simp [valueAt]
  rw [keptFlags, getElem?_scatterFlags hi]
  simp only [hequal, not_exists, not_and, Bool.not_true, Option.some_inj, ite_eq_left_iff,
    Bool.false_eq_true, imp_false, not_not, mem_distinctPlaces (equivalence_samePlaces s), hi,
    true_and]
  exact forall₂_congr fun j _ ↦ imp_not_comm

/-- There are as many marks as distinct rows. -/
theorem count_keptFlags {s : Series} {keep : Keep} (hkeep : keep ≠ .none) :
    (s.keptFlags keep).count true = s.countDistinct := by
  rw [keptFlags, count_scatterFlags (nodup_distinctPlaces s keep) fun i hi ↦
    ((mem_distinctPlaces (equivalence_samePlaces s)).1 hi).1, length_distinctPlaces hkeep]

/-- Together the flags mark first rows, last rows, rows without an equal one and all others. -/
theorem marksDistinct_keptFlags (s : Series) :
    s.MarksDistinct (s.keptFlags .first) (s.keptFlags .last) (s.keptFlags .none)
      ((s.keptFlags .none).map not) where
  length := by simp [keptFlags, scatterFlags]
  first_iff i hi := by
    rw [getElem?_keptFlags hi]
    exact not_congr ⟨fun ⟨j, _, h⟩ ↦ ⟨j, h⟩, fun ⟨j, hj, h⟩ ↦ ⟨j, hj.trans hi, hj, h⟩⟩
  last_iff i hi := getElem?_keptFlags hi
  unique_iff i hi := getElem?_keptFlags hi
  duplicated := rfl
  count_first := count_keptFlags nofun
  count_last := count_keptFlags nofun

end Flags

end Series

/-! ### Nodes -/

namespace Expr

variable {fr : Frame} {x : Expr} {s : Series}

/-- A flag for each row of an expression. -/
def flag (g : BooleanFunction) (x : Expr) : Expr := node .boolean (.booleanFunction g) [x]

/-- A function that looks at its only child has the value that it has on the child's column. -/
theorem values_flag {g : BooleanFunction} (hread : g.readsChild x.dtype = true) {c : Column}
    (hx : x.evaluate fr .frame .empty = .ok c) :
    (x.flag g).values fr .frame .empty = g.onColumns [c] := by
  have hall : [x].all (fun e ↦ g.readsChild e.dtype) = true := by simpa using hread
  rw [flag, values_node (Mapping.find?_empty _)]
  simp only [evaluateNode, if_pos hall, List.map_cons, List.map_nil, hx]
  show (g.onColumns [c] >>= fun s ↦ .ok { series := s }).map Column.series = _
  cases g.onColumns [c] <;> rfl

/-- **The flags of distinctness mean what they say.** They are never null, there is one for each row
of the expression, and they tell whether an equal row stands before it, after it or anywhere else.
First rows and last rows are as many as there are distinct rows. -/
theorem marksDistinct_values (hx : x.values fr .frame .empty = .ok s) :
    ∃ first last unique duplicated : List Bool,
      (x.flag .isFirstDistinct).values fr .frame .empty = .ok (.ofFlags (first.map some)) ∧
      (x.flag .isLastDistinct).values fr .frame .empty = .ok (.ofFlags (last.map some)) ∧
      (x.flag .isUnique).values fr .frame .empty = .ok (.ofFlags (unique.map some)) ∧
      (x.flag .isDuplicated).values fr .frame .empty = .ok (.ofFlags (duplicated.map some)) ∧
      s.MarksDistinct first last unique duplicated := by
  obtain ⟨c, hc, rfl⟩ := values_eq_ok.1 hx
  refine ⟨_, _, _, _, values_flag rfl hc, values_flag rfl hc, values_flag rfl hc, ?_,
    Series.marksDistinct_keptFlags c.series⟩
  rw [values_flag rfl hc, Series.keptFlags, ← Series.scatterFlags_false]
  rfl

/-- The trees along a street, some of which could not be told. -/
def trees : Series := ⟨.utf8, [some "oak", none, some "elm", some "oak", none]⟩

/-- The frame of the trees. -/
def treesFrame : Frame := ⟨[⟨"tree", { series := trees }⟩], rfl⟩

/-- The column of the trees. -/
def treeColumn : Expr := node .utf8 (.col "tree") []

/-- The four flags of the trees. -/
theorem marksDistinct_values_trees :
    treeColumn.values treesFrame .frame .empty = .ok trees ∧
    ∃ first last unique duplicated : List Bool,
      (treeColumn.flag .isFirstDistinct).values treesFrame .frame .empty =
        .ok (.ofFlags (first.map some)) ∧
      (treeColumn.flag .isLastDistinct).values treesFrame .frame .empty =
        .ok (.ofFlags (last.map some)) ∧
      (treeColumn.flag .isUnique).values treesFrame .frame .empty =
        .ok (.ofFlags (unique.map some)) ∧
      (treeColumn.flag .isDuplicated).values treesFrame .frame .empty =
        .ok (.ofFlags (duplicated.map some)) ∧
      trees.MarksDistinct first last unique duplicated :=
  ⟨rfl, marksDistinct_values rfl⟩

end Expr

end Tabular
