import Tabular.Proofs.Grouping.Lookup

/-!
# The grouped frame

A grouping is evaluated in steps, each of which can fail: keys, groups, results, the frame of the
results, the columns over it, and the grouped frame. `GroupBy.evaluate_eq_ok` names what the steps
give, and the lemmas before it say when the later ones succeed.

The frame of the results exists for every grouping (`GroupBy.exists_resultFrame`). Its columns have
one length since there is a result for each group, also if there are none, and their names are
distinct since different numbers have different digits (`GroupBy.requestName_injective`).
-/

namespace Tabular

/-- Without rows there is nothing to cast. -/
theorem Series.length_cast_empty {d e : DataType} {s : Series}
    (h : (Series.empty d).cast e = .ok s) : s.length = 0 := by
  unfold cast at h
  split at h
  · injection h with h
    exact h ▸ rfl
  · split at h
    · obtain ⟨rows, hrows, h⟩ := Outcome.bind_eq_ok.1 h
      injection h with h
      subst h
      unfold convertRows at hrows
      split at hrows
      · contradiction
      · split at hrows
        · injection hrows with hrows
          exact hrows ▸ List.length_replicate
        · obtain ⟨f, -, hrows⟩ := Outcome.bind_eq_ok.1 hrows
          injection hrows with hrows
          exact hrows ▸ rfl
    · cases h

namespace AggRequest

variable {q : AggRequest} {values : Option Series} {groups : List (List Nat)} {s : Series}

/-- There is one result for each group, also if there are none. -/
theorem length_reduceGroups (h : q.reduceGroups values groups = .ok s) :
    s.length = groups.length := by
  obtain ⟨parts, hparts, h⟩ := Outcome.bind_eq_ok.1 h
  obtain ⟨xs, rfl⟩ := exists_singles (fun _ _ ↦ reduceGroup_eq_ok) hparts
  have hlen : xs.length = groups.length := by
    rw [(Outcome.mapM_eq_ok.1 hparts).length_eq, List.length_map]
  by_cases hxs : xs = []
  · subst hxs
    rw [← hlen]
    split at h
    · injection h with h
      exact h ▸ rfl
    · exact Series.length_cast_empty h
  · rw [stack_single _ hxs] at h
    split at h
    · injection h with h
      exact h ▸ hlen
    · exact ((Series.elementwise_cast _).length_eq hxs h).trans hlen

/-- Collecting the rows of groups always succeeds. -/
theorem exists_reduceGroups (hq : q.reduction.isCollectList = true) :
    ∃ s, q.reduceGroups values groups = .ok s := by
  have hreduction := Aggregation.eq_collectList hq
  obtain ⟨parts, hparts⟩ : ∃ parts, groups.mapM (q.reduceGroup values) = .ok parts := by
    refine Outcome.exists_mapM_eq_ok fun group _ ↦ ?_
    unfold reduceGroup
    cases values <;> rw [hreduction] <;> exact ⟨_, rfl⟩
  rw [reduceGroups, hparts, Outcome.ok_bind, if_pos hq]
  exact ⟨_, rfl⟩

end AggRequest

namespace GroupBy

variable {g : GroupBy} {f raw out : Frame} {m : Mapping} {groups : List (List Nat)}
  {results : List Series} {a : NamedExpr} {n : Nat}

/-! ### Keys and answers -/

/-- The key series are evaluated one by one. -/
theorem keySeries_eq_ok {ks : List Series} :
    g.keySeries f = .ok ks ↔ g.keys.mapM (fun k ↦ evaluateFully f k.value) = .ok ks := by
  unfold evaluateFully
  rw [mapM_bind_eq_ok]
  exact Outcome.bind_eq_ok

/-- An answer has a row for each group. -/
theorem length_answer {q : AggRequest} {s : Series} (h : answer f groups q = .ok s) :
    s.length = groups.length := by
  obtain ⟨_, _, hs⟩ := Outcome.bind_eq_ok.1 h
  exact AggRequest.length_reduceGroups hs

/-- There is a result for each group. -/
theorem length_of_results (h : g.results f groups = .ok results) {s : Series} (hs : s ∈ results) :
    s.length = groups.length := by
  obtain ⟨q, -, hq⟩ := Outcome.exists_of_mem_result (results_eq_ok.1 h) hs
  exact length_answer hq

/-! ### The frame of the results -/

/-- Different requests have different names: a number can be read off its digits. -/
theorem requestName_injective : Function.Injective requestName := by
  intro i j h
  have hdigits : Nat.toDigits 10 i = Nat.toDigits 10 j := by
    have hrepr : i.repr = j.repr := (String.append_right_inj _).1 h
    rw [← Nat.toList_repr, ← Nat.toList_repr, hrepr]
  rw [← Nat.ofDigitChars_ten_toDigits (n := i), hdigits, Nat.ofDigitChars_ten_toDigits]

/-- **Results of equal length form a frame.** -/
theorem exists_resultFrame (h : ∀ s ∈ results, s.length = n) :
    ∃ raw, resultFrame results n = .ok raw := by
  unfold resultFrame
  split
  · refine Frame.exists_ofColumns (n := n) (fun c hc ↦ ?_) (List.nodup_singleton _)
    rw [List.mem_singleton.1 hc]
    exact List.length_replicate
  · refine Frame.exists_ofColumns (n := n) (fun c hc ↦ ?_) ?_
    · obtain ⟨p, hp, rfl⟩ := List.mem_map.1 hc
      exact h p.1 (List.fst_mem_of_mem_zipIdx hp)
    · have hnames : (results.zipIdx.map fun p ↦
          (⟨requestName p.2, { series := p.1 }⟩ : NamedColumn)).map NamedColumn.name =
            (List.range' 0 results.length).map requestName := by
        rw [List.map_map, ← List.zipIdx_map_snd 0 results, List.map_map]
        rfl
      rw [hnames]
      exact List.Nodup.map requestName_injective List.nodup_range'

/-! ### Columns over the results -/

/-- The column of an expression has its name and its values over the results, broadcast. -/
theorem aggColumn_eq (raw : Frame) (m : Mapping) (n : Nat) (a : NamedExpr) :
    (aggColumn raw m n a).map (fun c ↦ (c.name, c.column.series)) =
      (a.value.values raw .groupBy m >>= fun s ↦ s.broadcast n).map (a.name, ·) := by
  unfold aggColumn Expr.values
  cases a.value.evaluate raw .groupBy m with
  | error e => rfl
  | ok c =>
    simp only [Outcome.ok_bind]
    split
    · next hlen =>
      have hself : c.series.broadcast n = .ok c.series := Series.broadcast_self hlen
      show _ = (c.series.broadcast n).map (a.name, ·)
      rw [hself]
      rfl
    · show _ = (c.series.broadcast n).map (a.name, ·)
      cases c.series.broadcast n <;> rfl

/-- A column over the results has the name of its expression, and the values, broadcast to the
groups. -/
theorem aggColumn_eq_ok {c : NamedColumn} (h : aggColumn raw m n a = .ok c) :
    c.name = a.name ∧ ∃ s, a.value.values raw .groupBy m = .ok s ∧
      s.broadcast n = .ok c.column.series := by
  have heq := aggColumn_eq raw m n a
  rw [h] at heq
  obtain ⟨t, ht, hpair⟩ := Outcome.map_eq_ok.1 heq.symm
  obtain ⟨s, hs, ht⟩ := Outcome.bind_eq_ok.1 ht
  injection hpair with hname hseries
  exact ⟨hname.symm, s, hs, hseries ▸ ht⟩

/-- An expression gives a column if it has values over the results that fit the groups. -/
theorem exists_aggColumn {s : Series} (hs : a.value.values raw .groupBy m = .ok s)
    (hfits : Fits s.rows n) : ∃ c, aggColumn raw m n a = .ok c := by
  obtain ⟨t, ht⟩ := Series.exists_broadcast_iff.2 hfits
  have heq := aggColumn_eq raw m n a
  rw [hs, Outcome.ok_bind, ht] at heq
  obtain ⟨c, hc, -⟩ := Outcome.map_eq_ok.1 heq
  exact ⟨c, hc⟩

/-! ### Columns of keys -/

/-- A key column has a row for each group. -/
theorem length_keyColumn (hne : ∀ group ∈ groups, group ≠ []) (k : NamedExpr) (s : Series) :
    (keyColumn groups k s).column.length = groups.length :=
  (Series.length_select _ _).trans (Series.forall₂_representatives hne).length_eq

/-- A key column holds the key of every row of a group. -/
theorem select_keyColumn {keys : List Series}
    (hgrouping : IsGrouping (Series.sameRows keys) n groups) {s : Series} (hs : s ∈ keys)
    (k : NamedExpr) {i j : Nat} (hi : i < groups.length) (hj : j ∈ groups[i]) :
    (keyColumn groups k s).column.series.select [i] = s.select [j] := by
  -- the key column holds the key of a representative, and all rows of its group have this key
  have hreps := Series.forall₂_representatives hgrouping.ne_nil
  have hi' : i < (Series.representatives groups).length := hreps.length_eq ▸ hi
  have hrep : (Series.representatives groups)[i] ∈ groups[i] := hreps.get hi' hi
  have hg : groups[i] ∈ groups := List.getElem_mem hi
  have hsame := (hgrouping.mem_iff _ hg _ hrep j (hgrouping.lt hg hj)).1 hj
  show (s.select (Series.representatives groups)).select [i] = s.select [j]
  rw [Series.select_select _ _ hi']
  exact Series.sameRows_iff.1 hsame s hs

/-- The key columns, each from a key and its series. -/
theorem zipWith_keyColumn (keys : List NamedExpr) (ks : List Series) :
    List.zipWith (keyColumn groups) keys ks =
      (keys.zip ks).map fun p ↦ keyColumn groups p.1 p.2 :=
  (List.map_uncurry_zip_eq_zipWith).symm

/-! ### The steps of an evaluation -/

/-- **What evaluation gives, step by step.** -/
theorem evaluate_eq_ok :
    g.evaluate f = .ok out ↔ ∃ keys groups results raw columns, g.keySeries f = .ok keys ∧
      GroupBy.groups g.maintainOrder f keys = .ok groups ∧ g.results f groups = .ok results ∧
      resultFrame results groups.length = .ok raw ∧
      g.aggs.mapM (aggColumn raw (g.mapping results) groups.length) = .ok columns ∧
      Frame.ofColumns (List.zipWith (keyColumn groups) g.keys keys ++ columns) = .ok out := by
  simp only [evaluate, Outcome.bind_eq_ok, exists_and_left]

/-- Columns of the grouped frame are found by their names. -/
theorem column_of_evaluate {columns cs : List NamedColumn}
    (h : Frame.ofColumns (columns ++ cs) = .ok out) {c : NamedColumn} (hc : c ∈ columns ++ cs) :
    out.column c.name = .ok c.column :=
  Frame.column_of_mem ((Frame.ofColumns_eq_ok.1 h).2.2 ▸ hc)

/-- The column of an expression in the grouped frame. -/
theorem exists_column_of_mem {aggs : List NamedExpr} {columns cs : List NamedColumn}
    (hcs : aggs.mapM (aggColumn raw m n) = .ok cs) (h : Frame.ofColumns (columns ++ cs) = .ok out)
    (ha : a ∈ aggs) : ∃ c, aggColumn raw m n a = .ok c ∧ out.column a.name = .ok c.column := by
  obtain ⟨c, hmem, hc⟩ := Outcome.exists_of_mem hcs ha
  exact ⟨c, hc, (aggColumn_eq_ok hc).1 ▸ column_of_evaluate h (List.mem_append_right _ hmem)⟩

end GroupBy

end Tabular
