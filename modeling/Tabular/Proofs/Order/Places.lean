import Tabular.Proofs.Order.Comparison

/-!
# Sorted places

When a sort succeeds, and what it gives: all the places, each once, in the order of the columns
(`Series.sortIndices_eq_ok`, `Series.exists_of_sortIndices`). Which places those are is settled for
a stable sort, whose last column is the row number (`Series.sortIndices_stable_eq`), and up to
places that compare as equal for an unstable one. In both cases the rows at the places are in order
(`Series.pairwise_sort`).

There are two kernels, and which of them sorts is decided by the number of keys and by whether the
sort is stable (`Series.sortIndices_cases`). Nothing beyond this module has to know.
-/

namespace Tabular

namespace Series

variable {s t : Series} {k : SortKey} {keys : List Series} {options : List SortKey}
  {columns : List (Series × SortKey)} {stable : Bool} {how : PlaceSort} {n : Nat}
  {places : List Nat}

/-- The columns of a sort, with the row number, put places in an order. -/
theorem transCmp_columnOrders (columns : List (Series × SortKey)) (stable : Bool) :
    Std.TransCmp (compareBy (columnOrders columns stable)) := by
  refine transCmp_compareBy fun cmp hcmp ↦ ?_
  rcases List.mem_append.1 hcmp with hcmp | hcmp
  · obtain ⟨c, -, rfl⟩ := List.mem_map.1 hcmp
    exact transCmp_comparePlaces c.1 c.2
  · cases stable with
    | false => cases hcmp
    | true =>
      obtain rfl := List.mem_singleton.1 hcmp
      exact inferInstanceAs (Std.TransCmp (Ord.compare : Nat → Nat → Ordering))

/-! ### When a sort succeeds -/

/-- The keys have types that a sort takes: a single series is ranked unless the sort is stable, and
columns are compared. -/
def Sortable (keys : List Series) (stable : Bool) : Prop :=
  ∀ s ∈ keys, if keys.length = 1 ∧ stable = false then s.dtype.isRanked = true
    else s.dtype.isOrdered = true

instance : Decidable (Sortable keys stable) :=
  inferInstanceAs (Decidable (∀ s ∈ keys, _))

/-- A single series is ranked if its sort is not stable. -/
theorem sortable_singleton_false : Sortable [s] false ↔ s.dtype.isRanked = true := by
  simp [Sortable]

/-- A stable sort of one series goes by columns. -/
theorem sortable_singleton_true : Sortable [s] true ↔ s.dtype.isOrdered = true := by
  simp [Sortable]

/-- The kernel for columns asks for an order of every key, and puts the places in it. -/
theorem sortColumns_eq_ok : sortColumns n columns stable how = .ok places ↔
    (∀ c ∈ columns, c.1.length = n) ∧ (∀ c ∈ columns, c.1.dtype.isOrdered = true) ∧
      places = how.places (compareBy (columnOrders columns stable)) n := by
  have hlen : (columns.any fun c ↦ decide (c.1.length ≠ n)) = false ↔
      ∀ c ∈ columns, c.1.length = n := by
    simp
  have hordered : columns.find? (fun c ↦ !c.1.dtype.isOrdered) = none ↔
      ∀ c ∈ columns, c.1.dtype.isOrdered = true := by
    simp
  rw [← hlen, ← hordered]
  unfold sortColumns
  split
  · next h => exact ⟨nofun, fun h' ↦ absurd (h.symm.trans h'.1) (by decide)⟩
  · next h =>
    rw [Bool.not_eq_true] at h
    split
    · next h' => exact ⟨nofun, fun h'' ↦ absurd (h'.symm.trans h''.2.1) nofun⟩
    · next h' => exact Outcome.ok_eq_ok.trans ⟨fun hp ↦ ⟨h, h', hp⟩, fun hp ↦ hp.2.2⟩

/-- The kernel for one series asks for a rank. -/
theorem sortRanked_eq_ok : s.sortRanked k how = .ok places ↔
    s.dtype.isRanked = true ∧ places = how.places (s.comparePlaces k) s.length := by
  unfold sortRanked
  split
  · next h => exact Outcome.ok_eq_ok.trans ⟨fun hp ↦ ⟨h, hp⟩, And.right⟩
  · next h => exact ⟨nofun, fun hp ↦ absurd hp.1 h⟩

/-- A sort by a single key that is not stable ranks it; any other sort is one by columns. -/
theorem sortIndices_cases {first : Series} {rest : List Series} (stable : Bool) (how : PlaceSort)
    (hopts : options.length = (first :: rest).length) :
    (∃ key, rest = [] ∧ options = [key] ∧ stable = false) ∨
      ¬((first :: rest).length = 1 ∧ stable = false) ∧
        sortIndices (first :: rest) options stable how =
          sortColumns first.length ((first :: rest).zip options) stable how := by
  obtain ⟨key, options, rfl⟩ := List.exists_cons_of_length_eq_add_one hopts
  cases stable with
  | true => exact .inr ⟨by simp, by simp [sortIndices, hopts]⟩
  | false =>
    cases rest with
    | nil => exact .inl ⟨key, rfl, by simpa using hopts, rfl⟩
    | cons second rest =>
      obtain ⟨key', options, rfl⟩ := List.exists_cons_of_length_eq_add_one (by simpa using hopts)
      exact .inr ⟨by simp, by simp [sortIndices, hopts]⟩

/-- **A sort by keys of one length**, with as many options, succeeds if the types of the keys allow
it, and gives the places in the order of its columns. -/
theorem sortIndices_eq_ok (hne : keys ≠ []) (hlen : ∀ s ∈ keys, s.length = n)
    (hopts : options.length = keys.length) :
    sortIndices keys options stable how = .ok places ↔ Sortable keys stable ∧
      places = how.places (compareBy (columnOrders (keys.zip options) stable)) n := by
  obtain ⟨first, rest, rfl⟩ := List.exists_cons_of_ne_nil hne
  have hfirst : first.length = n := hlen first List.mem_cons_self
  rcases sortIndices_cases stable how hopts with ⟨key, rfl, rfl, rfl⟩ | ⟨hpath, heq⟩
  · have horder : compareBy (columnOrders [(first, key)] false) = first.comparePlaces key := by
      funext i j
      exact Ordering.then_eq
    rw [sortIndices_singleton, sortRanked_eq_ok, List.zip_cons_cons, List.zip_nil_left, horder,
      hfirst, sortable_singleton_false]
  · -- columns are the keys with their options
    have hcolumns {P : Series → Prop} : (∀ c ∈ (first :: rest).zip options, P c.1) ↔
        ∀ s ∈ first :: rest, P s := by
      conv_rhs => rw [← List.map_fst_zip (Nat.le_of_eq hopts.symm), List.forall_mem_map]
    rw [heq, hfirst, sortColumns_eq_ok, hcolumns (P := fun s ↦ s.length = n),
      hcolumns (P := fun s ↦ s.dtype.isOrdered = true)]
    simp only [Sortable, if_neg hpath]
    exact ⟨And.right, fun h ↦ ⟨hlen, h⟩⟩

/-- Keys of a type without an order are refused. -/
theorem exists_sortIndices_eq_noOrder (hne : keys ≠ []) (hlen : ∀ s ∈ keys, s.length = n)
    (hopts : options.length = keys.length) (h : ¬Sortable keys stable) :
    ∃ s ∈ keys, sortIndices keys options stable how = kernelFault (.noOrder s.dtype) := by
  obtain ⟨first, rest, rfl⟩ := List.exists_cons_of_ne_nil hne
  rcases sortIndices_cases stable how hopts with ⟨key, rfl, rfl, rfl⟩ | ⟨hpath, heq⟩
  · exact ⟨first, List.mem_cons_self, if_neg (mt sortable_singleton_false.2 h)⟩
  · rw [heq, sortColumns]
    simp only [Sortable, if_neg hpath] at h
    split
    · next hany =>
      obtain ⟨c, hc, hne⟩ := List.any_eq_true.1 hany
      have hmem := (List.of_mem_zip hc).1
      simp [hlen c.1 hmem, hlen first List.mem_cons_self] at hne
    · split
      · next s key hfind =>
        exact ⟨s, (List.of_mem_zip (List.mem_of_find?_eq_some hfind)).1, rfl⟩
      · next hfind =>
        refine absurd (fun s hs ↦ ?_) h
        rw [← List.map_fst_zip (Nat.le_of_eq hopts.symm)] at hs
        obtain ⟨c, hc, rfl⟩ := List.mem_map.1 hs
        simpa using List.find?_eq_none.1 hfind c hc

/-- A sort that succeeds has keys of one length and as many options. -/
theorem exists_of_sortIndices (h : sortIndices keys options stable how = .ok places) :
    ∃ n, keys ≠ [] ∧ (∀ s ∈ keys, s.length = n) ∧ options.length = keys.length := by
  cases keys with
  | nil => cases h
  | cons first rest =>
    by_cases hopts : options.length = (first :: rest).length
    · refine ⟨first.length, nofun, ?_, hopts⟩
      rcases sortIndices_cases stable how hopts with ⟨key, rfl, -, -⟩ | ⟨-, heq⟩
      · simp
      · rw [heq, sortColumns_eq_ok] at h
        rw [← List.map_fst_zip (Nat.le_of_eq hopts.symm), List.forall_mem_map]
        exact h.1
    · unfold sortIndices at h
      simp only [ne_eq, if_pos (Ne.symm hopts)] at h
      cases h

/-- No two places compare as equal in a stable sort. -/
theorem eq_of_columnOrders {i j : Nat}
    (h : compareBy (columnOrders columns true) i j = .eq) : i = j := by
  have hmem : (Ord.compare : Nat → Nat → Ordering) ∈ columnOrders columns true :=
    List.mem_append_right _ (List.mem_singleton_self _)
  exact Std.LawfulEqCmp.eq_of_compare (compareBy_eq_iff.1 h _ hmem)

/-- **A stable sort leaves no choice**: it gives the places that are in the order of its columns. -/
theorem sortIndices_stable_eq (hne : keys ≠ []) (hlen : ∀ s ∈ keys, s.length = n)
    (hopts : options.length = keys.length) (hkeys : Sortable keys true)
    (hperm : places.Perm (List.range n))
    (horder : places.Pairwise fun i j ↦
      (compareBy (columnOrders (keys.zip options) true) i j).isLE = true) :
    sortIndices keys options true how = .ok places := by
  have htrans := transCmp_columnOrders (keys.zip options) true
  refine (sortIndices_eq_ok hne hlen hopts).2 ⟨hkeys, ?_⟩
  refine List.Perm.eq_of_pairwise (fun i j _ _ hij hji ↦ ?_) horder (how.ordered _ n htrans)
    (hperm.trans (how.perm _ n).symm)
  exact eq_of_columnOrders (Std.OrientedCmp.isLE_antisymm hij hji)

/-- A rearrangement that succeeds selects sorted places, which exist in the series unless it is of
the null type. -/
theorem sortBy_eq_ok : s.sortBy keys options stable how = .ok t ↔
    ∃ places, sortIndices keys options stable how = .ok places ∧
      (s.dtype ≠ .null → ∀ i ∈ places, i < s.length) ∧ t = s.select places := by
  refine Outcome.bind_eq_ok.trans (exists_congr fun places ↦ and_congr_right fun _ ↦ ?_)
  have houtside : (s.dtype ≠ .null && places.any (s.length ≤ ·)) = true ↔
      ¬(s.dtype ≠ .null → ∀ i ∈ places, i < s.length) := by
    simp
  split
  · next h => exact ⟨nofun, fun h' ↦ absurd h'.1 (houtside.1 h)⟩
  · next h =>
    rw [houtside, not_not] at h
    exact Outcome.ok_eq_ok.trans ⟨fun ht ↦ ⟨h, ht⟩, And.right⟩

/-! ### Sorted rows -/

/-- A sort by one key selects all places, in the order of their rows. -/
theorem exists_of_sort (h : s.sort k stable how = .ok t) :
    ∃ places, t = s.select places ∧ places.Perm (List.range s.length) ∧
      places.Pairwise fun i j ↦ ((Sortedness.ofKey k).compareRows s.dtype (s.rows[i]?).join
        (s.rows[j]?).join).isLE = true := by
  obtain ⟨places, hplaces, h⟩ := Outcome.bind_eq_ok.1 h
  injection h with h
  obtain ⟨-, rfl⟩ := (sortIndices_eq_ok (List.cons_ne_nil s []) (n := s.length) (by simp)
    rfl).1 hplaces
  refine ⟨_, h.symm, how.perm _ _, ?_⟩
  refine (how.ordered _ _ (transCmp_columnOrders _ _)).imp fun {i j} hij ↦ ?_
  rw [← comparePlaces_eq]
  exact isLE_of_compareBy hij

/-- **Sorted rows are in order.** -/
theorem pairwise_sort (h : s.sort k stable how = .ok t) :
    t.rows.Pairwise fun a b ↦ ((Sortedness.ofKey k).compareRows t.dtype a b).isLE := by
  obtain ⟨places, rfl, -, hplaces⟩ := exists_of_sort h
  rwa [select_eq, List.pairwise_map]

/-- The rows of a series in some order, none of them lost or repeated. -/
def Rearranges (t s : Series) : Prop :=
  ∃ rows : List (Option s.dtype.Value), t = ⟨s.dtype, rows⟩ ∧ rows.Perm s.rows

/-- The rows at places `0, …, n - 1`, in any order, are the rows of a series of `n` rows, and of no
other one. -/
theorem rearranges_select_iff (hperm : places.Perm (List.range n)) :
    (s.select places).Rearranges s ↔ n = s.length := by
  have hlen : places.length = n := hperm.length_eq.trans List.length_range
  constructor
  · rintro ⟨rows, hrows, hrows'⟩
    rw [← hlen, ← length_select s places, hrows]
    exact hrows'.length_eq
  · rintro rfl
    refine ⟨_, select_eq s places, ?_⟩
    conv_rhs => rw [← map_range_rows s]
    exact hperm.map _

/-- Sorted rows are the rows of the series. -/
theorem perm_sort (h : s.sort k stable how = .ok t) : t.Rearranges s := by
  obtain ⟨places, rfl, hperm, -⟩ := exists_of_sort h
  exact (rearranges_select_iff hperm).2 rfl

/-- A sort succeeds if the type of the values allows it. -/
theorem exists_sort_iff : (∃ t, s.sort k stable how = .ok t) ↔ Sortable [s] stable := by
  have hsort {places : List Nat} : sortIndices [s] [k] stable how = .ok places ↔
      Sortable [s] stable ∧ places = how.places (compareBy (columnOrders [(s, k)] stable))
        s.length :=
    sortIndices_eq_ok (List.cons_ne_nil s []) (by simp) rfl
  constructor
  · rintro ⟨t, h⟩
    obtain ⟨places, hplaces, -⟩ := Outcome.bind_eq_ok.1 h
    exact (hsort.1 hplaces).1
  · exact fun h ↦ ⟨_, Outcome.bind_eq_ok.2 ⟨_, hsort.2 ⟨h, rfl⟩, rfl⟩⟩

end Series

end Tabular
