import Tabular.Proofs.Grouping.Agreement
import Tabular.Proofs.Grouping.Matching

/-!
# Groupings of reordered frames

A grouping by columns whose expressions are reductions that ignore the order of rows
(`Frame.OrderFree`) gives the same frame for the rows in any order (`GroupBy.evaluate_of_reorders`):
the groups are the same sets of rows, each reduction gives the same for each of them, and in key
order the groups come in the same order. Without key order the groups come in the order of their
first rows, and it is the order of the groups alone that changes.

Each step of an evaluation is carried over on its own: keys, answers (`GroupBy.answer_of_reorders`),
results, columns of expressions and of keys. They are put into one order, that in which the groups
are matched (`Regrouped`). A reordered frame is one from which the first can be had back
(`Frame.Reorders.exists_symm`), and so a grouping succeeds on both or on neither.

Nothing is asked of the claims that the columns of the two frames make about their order.
-/

namespace Tabular

/-! ### Frames in another order -/

/-- The second frame has the rows of the first at the places, which are all places in some order.
What the columns claim about their order is no matter. -/
structure Frame.Reorders (f f' : Frame) (places : List Nat) : Prop where
  perm : places.Perm (List.range f.rows)
  columns : List.Forall₂
    (fun c c' ↦ c'.name = c.name ∧ c'.column.series = c.column.series.select places)
    f.columns f'.columns

/-- Rows that are looked up at all places in some order. -/
theorem Frame.reorders_select {f : Frame} {places : List Nat}
    (h : places.Perm (List.range f.rows)) : f.Reorders (f.select places) places where
  perm := h
  columns := by
    have hcolumns : (f.select places).columns = f.columns.map (·.select places) := rfl
    rw [hcolumns, List.forall₂_map_right_iff, List.forall₂_same]
    exact fun _ _ ↦ ⟨rfl, rfl⟩

namespace Frame.Reorders

variable {f f' : Frame} {places : List Nat}

/-- There are as many places as rows. -/
theorem length_eq (h : f.Reorders f' places) : places.length = f.rows :=
  h.perm.length_eq.trans List.length_range

/-- Every place is one of a row. -/
theorem lt (h : f.Reorders f' places) {i : Nat} (hi : i ∈ places) : i < f.rows :=
  List.mem_range.1 (h.perm.mem_iff.1 hi)

/-- No row is lost. -/
theorem rows_eq (h : f.Reorders f' places) : f'.rows = f.rows := by
  have hlen := h.length_eq
  obtain ⟨columns, checked⟩ := f
  obtain ⟨columns', checked'⟩ := f'
  cases h.columns with
  | nil => rfl
  | cons hc _ =>
    refine Eq.trans ?_ hlen
    exact (congrArg Series.length hc.2).trans (Series.length_select _ _)

/-- A column is found in both frames. -/
theorem exists_column (h : f.Reorders f' places) {name : String} {c : Column}
    (hc : f.column name = .ok c) :
    ∃ c', f'.column name = .ok c' ∧ c'.series = c.series.select places := by
  obtain ⟨i, hi, hget⟩ := List.mem_iff_getElem.1 (Frame.column_eq_ok hc)
  have hi' : i < f'.columns.length := h.columns.length_eq ▸ hi
  obtain ⟨hname, hseries⟩ := h.columns.get hi hi'
  simp only [List.get_eq_getElem, hget] at hname hseries
  exact ⟨_, hname ▸ Frame.column_of_mem (List.getElem_mem hi'), hseries⟩

/-- A column has its rows in the new order. -/
theorem values_column (h : f.Reorders f' places) {e : Expr} (he : e.IsColumn) {s : Series}
    (hs : e.values f .frame .empty = .ok s) :
    e.values f' .frame .empty = .ok (s.select places) := by
  obtain ⟨d, name, cs, rfl⟩ := he
  rw [Expr.values_col (Mapping.find?_empty _)] at hs ⊢
  obtain ⟨c, hc, rfl⟩ := Outcome.map_eq_ok.1 hs
  obtain ⟨c', hc', hseries⟩ := h.exists_column hc
  rw [hc', ← hseries]
  rfl

/-- The rows can be put back into the order they had. -/
theorem exists_symm (h : f.Reorders f' places) : ∃ places', f'.Reorders f places' := by
  obtain ⟨places', hperm, hplaces⟩ := exists_order_of_perm h.perm.symm
  have hlt (i : Nat) (hi : i ∈ places') : i < places.length :=
    List.mem_range.1 (hperm.mem_iff.1 hi)
  have hback : places'.map (places.getD · 0) = List.range f.rows := by
    refine List.ext_getElem ((List.length_map _).trans hplaces.length_eq.symm) fun j hj hj' ↦ ?_
    have hget := hplaces.get hj' (by rwa [List.length_map] at hj)
    rw [List.get_eq_getElem, List.get_eq_getElem] at hget
    rw [List.getElem_map, List.getD_eq_getElem?_getD, hget, Option.getD_some]
  refine ⟨places', by rwa [h.rows_eq, ← h.length_eq], ?_⟩
  refine List.forall₂_iff_get.2 ⟨h.columns.length_eq.symm, fun i hi hi' ↦ ?_⟩
  obtain ⟨hname, hseries⟩ := h.columns.get hi' hi
  refine ⟨hname.symm, ?_⟩
  have hlen : (f.columns.get ⟨i, hi'⟩).column.series.length = f.rows :=
    Frame.length_eq_rows (List.getElem_mem hi')
  rw [hseries, Series.select_select_map _ hlt, hback, ← hlen, Series.select_range]

end Frame.Reorders

/-! ### Reductions that ignore the order of rows -/

/-- The reductions of columns of type `d` that give the same for rows in any order. -/
def AggFunction.ignoresOrder (d : DataType) : AggFunction → Bool
  | count => true
  | nUnique => true
  | min _ => true
  | max _ => true
  | sum => !d.isFloating
  | _ => false

/-- A reduction that ignores the order makes a request that does. -/
theorem AggFunction.ignoresOrder_request {g : AggFunction} {d : DataType} {cs : List Expr}
    {reduction : Aggregation} (hg : g.ignoresOrder d = true)
    (h : g.request cs = .ok reduction) : reduction.ignoresOrder d = true := by
  cases g with
  | count | nUnique | min _ | max _ | sum =>
    injection h with h
    exact h ▸ hg
  | _ => cases hg

/-- NaNs are masked row by row. -/
theorem AggFunction.maskedAs_select (g : AggFunction) (d : DataType) (s : Series)
    (places : List Nat) : g.maskedAs d (s.select places) = (g.maskedAs d s).select places := by
  unfold maskedAs
  split
  · exact Series.maskNans_select s places
  · rfl

@[simp]
theorem AggFunction.dtype_maskedAs (g : AggFunction) (d : DataType) (s : Series) :
    (g.maskedAs d s).dtype = s.dtype := by
  unfold maskedAs
  split
  · exact Series.dtype_maskNans s
  · rfl

/-- The expression is the number of rows, or a reduction of a column that ignores the order of
rows. -/
inductive Frame.OrderFree (f : Frame) : Expr → Prop
  | len {d : DataType} {cs : List Expr} : OrderFree f (.node d .len cs)
  | agg {d e : DataType} {g : AggFunction} {name : String} {ds cs : List Expr} :
      (∀ c, f.column name = .ok c → g.ignoresOrder c.dtype = true) →
      OrderFree f (.node d (.agg g) (.node e (.col name) ds :: cs))

/-- What ignores the order does so on either frame: the columns have the same types. -/
theorem Frame.OrderFree.of_reorders {f f' : Frame} {places : List Nat} {e : Expr}
    (h : f.Reorders f' places) (he : f'.OrderFree e) : f.OrderFree e := by
  cases he with
  | len => exact .len
  | agg hg =>
    refine .agg fun c hc ↦ ?_
    obtain ⟨c', hc', hseries⟩ := h.exists_column hc
    have hdtype : c'.dtype = c.dtype := by
      rw [Column.dtype, hseries, Series.select_eq, Column.dtype]
    exact hdtype ▸ hg c' hc'

/-- What ignores the order is a leaf, and requests itself. -/
theorem Frame.requestThemselves_orderFree (f : Frame) : Expr.RequestThemselves f.OrderFree := by
  intro x rs hx hrs
  cases hx with
  | len =>
    cases hrs with
    | len => exact ⟨_, rfl, rfl, rfl⟩
  | agg =>
    cases hrs with
    | agg _ _ hr _ => exact ⟨_, rfl, rfl, AggFunction.isCollectList_request hr⟩

namespace AggRequest

variable {q : AggRequest} {values : Option Series} {groups groups' : List (List Nat)}
  {places order : List Nat} {s t : Series}

/-- The order of the rows of a group is no matter. -/
theorem reduceGroup_of_perm (hq : ∀ s, values = some s → q.reduction.ignoresOrder s.dtype = true)
    {group group' : List Nat} (h : group.Perm group') (ht : q.reduceGroup values group = .ok t) :
    q.reduceGroup values group' = .ok t := by
  cases values with
  | none =>
    rw [reduceGroup, h.length_eq] at ht
    exact ht
  | some s =>
    rw [reduceGroup, Series.select_eq] at ht ⊢
    exact Series.reduce_of_perm (hq s rfl) (h.map _) ht

/-- The rows of a group can be looked up where they stood. -/
theorem reduceGroup_select {group : List Nat} (h : ∀ i ∈ group, i < places.length) :
    q.reduceGroup (values.map (·.select places)) group =
      q.reduceGroup values (group.map (places.getD · 0)) := by
  cases values with
  | none => rw [Option.map_none, reduceGroup, reduceGroup, List.length_map]
  | some s => rw [Option.map_some, reduceGroup, reduceGroup, Series.select_select_map s h]

/-- The result for a group is that of the group that it is matched with. -/
theorem reduceGroup_regrouped
    (hq : ∀ s, values = some s → q.reduction.ignoresOrder s.dtype = true)
    (h : Regrouped places groups groups' order) {j : Nat} (hj : j < order.length)
    (ht : q.reduceGroup values (groups.getD order[j] []) = .ok t) :
    q.reduceGroup (values.map (·.select places)) (groups'.getD j []) = .ok t := by
  have hj' : j < groups'.length := h.matched.length_eq.symm ▸ hj
  have hlt : ∀ i ∈ groups'.getD j [], i < places.length := by
    rw [List.getD_eq_getElem _ _ hj']
    exact h.lt _ (List.getElem_mem hj')
  rw [reduceGroup_select hlt]
  exact reduceGroup_of_perm hq (h.matched_at hj).symm ht

/-- **The results for groups of reordered rows** are those for the groups, in another order. -/
theorem reduceGroups_regrouped (hlist : q.reduction.isCollectList = false)
    (hq : ∀ s, values = some s → q.reduction.ignoresOrder s.dtype = true)
    (h : Regrouped places groups groups' order) (hs : q.reduceGroups values groups = .ok s) :
    q.reduceGroups (values.map (·.select places)) groups' = .ok (s.select order) := by
  have hlen := length_reduceGroups hs
  by_cases hne : groups = []
  · -- without groups there are no results, and none to put into another order
    subst hne
    obtain rfl : groups' = [] := List.length_eq_zero_iff.1 h.length_eq
    have hself : s.select order = s := by
      have horder : order = List.range s.length := by
        rw [hlen]
        exact List.perm_nil.1 h.perm
      rw [horder, Series.select_range]
    have hdtype : (values.map (·.select places)).map Series.dtype = values.map Series.dtype := by
      cases values with
      | none => rfl
      | some s => rw [Option.map_some, Option.map_some, Series.select_eq, Option.map_some]
    rw [hself, ← hs, reduceGroups, reduceGroups, hdtype]
    rfl
  · have hne' : groups' ≠ [] :=
      List.ne_nil_of_length_pos (h.length_eq ▸ List.length_pos_iff.2 hne)
    have hcount : order.length = groups'.length := h.matched.length_eq.symm
    refine (agrees_reduceGroups hne hlist).select_of_matched (agrees_reduceGroups hne' hlist) hs
      hlen (fun s' hs' ↦ length_reduceGroups hs') (List.length_pos_iff.2 hne') hcount
      (fun j hj ↦ h.order_lt hj) fun j hj t ht ↦ ?_
    obtain ⟨u, hu, hcast⟩ := Outcome.bind_eq_ok.1 ht
    rw [reduceGroup_regrouped hq h hj hu]
    exact hcast

end AggRequest

namespace GroupBy

variable {g : GroupBy} {f f' out : Frame} {places order : List Nat}
  {groups groups' : List (List Nat)} {ks results : List Series} {q : AggRequest} {e : Expr}
  {s : Series} {m : Mapping}

/-! ### The steps of an evaluation -/

/-- The input that a reduction prepares from a column. -/
theorem evaluateFully_of_preparedInput {h : AggFunction} {input : Expr} (he : e.IsColumn)
    (hp : h.preparedInput e = .ok input) :
    evaluateFully f input = (e.values f .frame .empty).map (h.maskedAs e.dtype) := by
  rw [evaluateFully_eq, AggFunction.values_preparedInput hp]
  cases hs : e.values f .frame .empty with
  | error err => rfl
  | ok s =>
    have hlen : (h.maskedAs e.dtype s).length = f.rows := by
      rw [← (Expr.values_column he hs).1, AggFunction.maskedAs]
      split
      · exact Series.length_maskNans s
      · rfl
    exact Series.broadcast_self hlen

/-- The keys are reordered like the rows. -/
theorem keySeries_of_reorders (h : f.Reorders f' places)
    (hcolumns : ∀ k ∈ g.keys, k.value.IsColumn) (hks : g.keySeries f = .ok ks) :
    g.keySeries f' = .ok (ks.map (·.select places)) := by
  rw [keySeries_eq_ok]
  refine Outcome.mapM_eq_ok_map (keySeries_eq_ok.1 hks) fun k hk s hs ↦ ?_
  rw [evaluateFully_eq] at hs ⊢
  obtain ⟨s', hs', hs⟩ := Outcome.bind_eq_ok.1 hs
  rw [Series.broadcast_self (Expr.values_column (hcolumns k hk) hs').1] at hs
  injection hs with hs
  subst hs
  rw [h.values_column (hcolumns k hk) hs', Outcome.ok_bind]
  exact Series.broadcast_self ((Series.length_select _ _).trans (h.length_eq.trans h.rows_eq.symm))

/-- **The answer to a request on reordered rows is the reordered answer.** -/
theorem answer_of_reorders (h : f.Reorders f' places)
    (hgroups : Regrouped places groups groups' order) (hq : Expr.Collects 0 e [q])
    (he : f.OrderFree e) (hs : answer f groups q = .ok s) :
    answer f' groups' q = .ok (s.select order) := by
  obtain ⟨values, hvalues, hs⟩ := Outcome.bind_eq_ok.1 hs
  cases he with
  | len =>
    cases hq with
    | len =>
      obtain ⟨⟩ := Outcome.optionMapM_eq_ok.1 hvalues
      refine AggRequest.reduceGroups_regrouped rfl ?_ hgroups hs
      exact nofun
  | @agg d e g name ds cs hg =>
    obtain ⟨input, reduction, -, hr, hp, rfl⟩ := exists_input_of_agg hq nofun nofun
    obtain ⟨hinput⟩ := Outcome.optionMapM_eq_ok.1 hvalues
    have hcolumn : (Expr.node e (.col name) ds).IsColumn := ⟨e, name, ds, rfl⟩
    rw [evaluateFully_of_preparedInput hcolumn hp] at hinput
    obtain ⟨t, ht, rfl⟩ := Outcome.map_eq_ok.1 hinput
    have hinput' : evaluateFully f' input = .ok ((g.maskedAs e t).select places) := by
      rw [evaluateFully_of_preparedInput hcolumn hp, h.values_column hcolumn ht,
        ← AggFunction.maskedAs_select]
      rfl
    -- masking keeps the type, so the reduction ignores the order of what it is computed from
    have hignores : reduction.ignoresOrder (g.maskedAs e t).dtype = true := by
      rw [Expr.values_col (Mapping.find?_empty _)] at ht
      obtain ⟨c, hc, rfl⟩ := Outcome.map_eq_ok.1 ht
      rw [AggFunction.dtype_maskedAs]
      exact AggFunction.ignoresOrder_request (hg c hc) hr
    refine Outcome.bind_eq_ok.2 ⟨_, Outcome.optionMapM_eq_ok.2 (.some hinput'), ?_⟩
    refine AggRequest.reduceGroups_regrouped (AggFunction.isCollectList_request hr)
      (fun _ hsome ↦ ?_) hgroups hs
    injection hsome with hsome
    exact hsome ▸ hignores

/-- The request of an expression that ignores the order of rows. -/
theorem exists_request (hg : g.Planned) {a : NamedExpr} (ha : a ∈ g.aggs)
    (he : f.OrderFree a.value) : ∃ q ∈ g.requests, q.owner = a.value := by
  obtain ⟨rs, hrs, hmem⟩ := hg.collects a ha
  obtain ⟨q, rfl, howner, -⟩ := f.requestThemselves_orderFree _ _ he hrs
  exact ⟨q, hmem q (List.mem_singleton_self q), howner⟩

/-- Requests are made in the name of what ignores the order. -/
theorem orderFree_owner (hg : g.Planned) (haggs : ∀ a ∈ g.aggs, f.OrderFree a.value)
    (hq : q ∈ g.requests) : f.OrderFree q.owner := by
  obtain ⟨a, ha, rs, hrs, hq⟩ := hg.requested q hq
  obtain ⟨q', rfl, howner, -⟩ := f.requestThemselves_orderFree _ _ (haggs a ha) hrs
  rw [List.mem_singleton.1 hq, howner]
  exact haggs a ha

/-- Every answer is put into the order of the groups. -/
theorem results_of_reorders (h : f.Reorders f' places)
    (hgroups : Regrouped places groups groups' order) (hg : g.Planned)
    (haggs : ∀ a ∈ g.aggs, f.OrderFree a.value) (hresults : g.results f groups = .ok results) :
    g.results f' groups' = .ok (results.map (·.select order)) := by
  rw [results_eq_ok]
  exact Outcome.mapM_eq_ok_map (results_eq_ok.1 hresults) fun q hq _ hs ↦
    answer_of_reorders h hgroups (hg.owner hq) (orderFree_owner hg haggs hq) hs

/-- An expression that is found with one row for each group has these rows for its column. -/
theorem aggColumn_of_find? {raw : Frame} {a : NamedExpr}
    (hfind : m.find? a.value = some { series := s }) (hlen : s.length = groups.length) :
    aggColumn raw m groups.length a = .ok ⟨a.name, { series := s }⟩ := by
  have hvalue : a.value.evaluate raw .groupBy m = .ok { series := s } := by
    cases ha : a.value with
    | node d k cs =>
      rw [ha] at hfind
      rw [Expr.evaluate, hfind]
  have hcolumn : Column.length { series := s } = groups.length := hlen
  rw [aggColumn, hvalue]
  simp only [Outcome.ok_bind, if_pos hcolumn]

/-- Every column over the results is put into the order of the groups. -/
theorem columns_of_reorders (h : f.Reorders f' places)
    (hgroups : Regrouped places groups groups' order) (hg : g.Planned)
    (haggs : ∀ a ∈ g.aggs, f.OrderFree a.value) (hresults : g.results f groups = .ok results)
    {raw : Frame} {columns : List NamedColumn}
    (hcolumns : g.aggs.mapM (aggColumn raw (g.mapping results) groups.length) = .ok columns)
    (raw' : Frame) :
    g.aggs.mapM (aggColumn raw' (g.mapping (results.map (·.select order))) groups'.length) =
      .ok (columns.map (·.select order)) := by
  have hresults' := results_of_reorders h hgroups hg haggs hresults
  refine Outcome.mapM_eq_ok_map hcolumns fun a ha c hc ↦ ?_
  obtain ⟨q, hq, howner⟩ := exists_request hg ha (haggs a ha)
  obtain ⟨s, hfind, hanswer⟩ := find?_mapping_owner hg hresults hq
  obtain ⟨s', hfind', hanswer'⟩ := find?_mapping_owner hg hresults' hq
  rw [howner] at hfind hfind'
  -- the expression is found with the answer to its request, over either frame
  have hreordered :=
    answer_of_reorders h hgroups (hg.owner hq) (orderFree_owner hg haggs hq) hanswer
  obtain rfl : s.select order = s' := Except.ok.inj (hreordered.symm.trans hanswer')
  rw [aggColumn_of_find? hfind (length_answer hanswer)] at hc
  injection hc with hc
  rw [aggColumn_of_find? hfind' (length_answer hanswer'), ← hc]
  rfl

/-- Key columns are put into the order of the groups. -/
theorem keyColumn_regrouped {n : Nat} (hgrouping : IsGrouping (Series.sameRows ks) n groups)
    (hgrouping' : IsGrouping (Series.sameRows (ks.map (·.select places))) n groups')
    (hgroups : Regrouped places groups groups' order) (k : NamedExpr) (hs : s ∈ ks) :
    keyColumn groups' k (s.select places) = (keyColumn groups k s).select order := by
  have hlen := length_keyColumn hgrouping'.ne_nil k (s.select places)
  have hcount : order.length = groups'.length := hgroups.matched.length_eq.symm
  have hseries : (s.select places).select (Series.representatives groups') =
      (s.select (Series.representatives groups)).select order := by
    by_cases hne : order = []
    · have hnil : Series.representatives groups' = [] := by
        rw [← List.length_eq_zero_iff, (Series.forall₂_representatives hgrouping'.ne_nil).length_eq,
          ← hcount, hne]
        rfl
      rw [hne, hnil]
      rfl
    · refine Series.eq_select hne (hlen.trans hcount.symm) fun j hj ↦ ?_
      have hj' : j < groups'.length := hcount ▸ hj
      -- a row of the group, and the row that it was
      obtain ⟨a, ha⟩ := List.exists_mem_of_ne_nil _ (hgrouping'.ne_nil _ (List.getElem_mem hj'))
      obtain ⟨hi, hlt, hmem⟩ := hgroups.mem_matched hj hj' ha
      have hkey : (s.select (Series.representatives groups)).select [order[j]] =
          s.select [places[a]] := select_keyColumn hgrouping hs k hi hmem
      have hkey' : ((s.select places).select (Series.representatives groups')).select [j] =
          (s.select places).select [a] :=
        select_keyColumn hgrouping' (List.mem_map_of_mem hs) k hj' ha
      rw [hkey, hkey', Series.select_select _ _ hlt]
  exact congrArg (fun s : Series ↦ (⟨k.name, { series := s }⟩ : NamedColumn)) hseries

/-- Every key column is put into the order of the groups. -/
theorem keyColumns_regrouped {n : Nat} (hgrouping : IsGrouping (Series.sameRows ks) n groups)
    (hgrouping' : IsGrouping (Series.sameRows (ks.map (·.select places))) n groups')
    (hgroups : Regrouped places groups groups' order) (keys : List NamedExpr) :
    List.zipWith (keyColumn groups') keys (ks.map (·.select places)) =
      (List.zipWith (keyColumn groups) keys ks).map (·.select order) := by
  rw [zipWith_keyColumn, zipWith_keyColumn, List.zip_map_right, List.map_map, List.map_map]
  exact List.map_congr_left fun p hp ↦
    keyColumn_regrouped hgrouping hgrouping' hgroups p.1 (List.of_mem_zip hp).2

/-- In key order, the keys of the groups increase strictly. -/
theorem pairwise_representatives_of_groups (hne : ks ≠ []) (hlen : ∀ s ∈ ks, s.length = f.rows)
    (h : GroupBy.groups false f ks = .ok groups) :
    (Series.representatives groups).Pairwise fun i j ↦ Series.compareKeys ks i j = .lt := by
  have hempty : ks.isEmpty = false := by simpa using hne
  rw [GroupBy.groups, hempty] at h
  obtain rfl : _ = groups := Except.ok.inj ((Series.groupRows_eq_ok hne hlen true).symm.trans h)
  exact Series.pairwise_representatives_sortGroups
    (Series.areGrouped_groupPlaces (Series.equivalence_sameRows ks) f.rows)

/-! ### Evaluation -/

/-- The grouped frame has a row for each group. -/
theorem rows_of_evaluate {columns : List NamedColumn} (hne : g.keys ≠ [])
    (hks : g.keySeries f = .ok ks) (hgroups : ∀ group ∈ groups, group ≠ [])
    (hout : Frame.ofColumns (List.zipWith (keyColumn groups) g.keys ks ++ columns) = .ok out) :
    out.rows = groups.length := by
  have hzip : g.keys.zip ks ≠ [] := by
    rw [← List.length_pos_iff, List.length_zip, (length_keySeries hks).1, Nat.min_self]
    exact List.length_pos_iff.2 hne
  obtain ⟨p, hp⟩ := List.exists_mem_of_ne_nil _ hzip
  have hmem : keyColumn groups p.1 p.2 ∈ out.columns := by
    rw [(Frame.ofColumns_eq_ok.1 hout).2.2, zipWith_keyColumn]
    exact List.mem_append_left _ (List.mem_map_of_mem hp)
  exact (Frame.length_eq_rows hmem).symm.trans (length_keyColumn hgroups p.1 p.2)

/-- A grouping that succeeds does so on the rows in another order, in either order of the groups. -/
theorem exists_evaluate_of_reorders (h : f.Reorders f' places) (hg : g.Planned) (hne : g.keys ≠ [])
    (hkeys : ∀ k ∈ g.keys, k.value.IsColumn) (haggs : ∀ a ∈ g.aggs, f.OrderFree a.value)
    (hout : g.evaluate f = .ok out) (maintainOrder : Bool) :
    ∃ order, order.Perm (List.range out.rows) ∧
      { g with maintainOrder }.evaluate f' = .ok (out.select order) ∧
      (g.maintainOrder = false → maintainOrder = false → order = List.range out.rows) := by
  obtain ⟨ks, groups, results, raw, columns, hks, hgroups, hresults, -, hcolumns, hframe⟩ :=
    evaluate_eq_ok.1 hout
  obtain ⟨hcount, hlen⟩ := length_keySeries hks
  have hks' := keySeries_of_reorders h hkeys hks
  -- the rows are grouped in either frame
  obtain ⟨groups', hgroups', hgrouping⟩ := groups_of_keys hks hne
  obtain rfl : groups = groups' := Except.ok.inj (hgroups.symm.trans hgroups')
  obtain ⟨groups', hgroups', hgrouping'⟩ :=
    groups_of_keys (g := { g with maintainOrder }) hks' hne
  rw [h.rows_eq] at hgrouping'
  obtain ⟨order, hregrouped⟩ := Series.regrouped_of_isGrouping h.perm hgrouping hgrouping'
  have hrows := rows_of_evaluate hne hks hgrouping.ne_nil hframe
  refine ⟨order, hrows ▸ hregrouped.perm, ?_, fun hsorted hsorted' ↦ ?_⟩
  · have hresults' := results_of_reorders h hregrouped hg haggs hresults
    obtain ⟨raw', hraw'⟩ : ∃ raw', resultFrame (results.map (·.select order)) groups'.length =
        .ok raw' := by
      refine exists_resultFrame (List.forall_mem_map.2 fun s _ ↦ ?_)
      exact (Series.length_select _ _).trans hregrouped.matched.length_eq.symm
    have hcolumns' := columns_of_reorders h hregrouped hg haggs hresults hcolumns raw'
    have hframe' : List.zipWith (keyColumn groups') g.keys (ks.map (·.select places)) ++
        columns.map (·.select order) = (out.select order).columns := by
      rw [keyColumns_regrouped hgrouping hgrouping' hregrouped, ← List.map_append,
        ← (Frame.ofColumns_eq_ok.1 hframe).2.2]
      rfl
    exact evaluate_eq_ok.2 ⟨_, groups', _, raw', _, hks', hgroups', hresults', hraw', hcolumns',
      hframe' ▸ Frame.ofColumns_columns _⟩
  · have hne' : ks ≠ [] := List.ne_nil_of_length_pos (hcount ▸ List.length_pos_iff.2 hne)
    rw [hsorted] at hgroups
    subst hsorted'
    have hlen' := (length_keySeries hks').2
    have hascending := pairwise_representatives_of_groups hne' hlen hgroups
    have hascending' :=
      pairwise_representatives_of_groups (mt List.map_eq_nil_iff.1 hne') hlen' hgroups'
    rw [hrows]
    exact Series.order_eq_range hgrouping hgrouping'.ne_nil hascending hascending' hregrouped

/-- The order that is asked of the groups is no matter for the rest of the plan. -/
theorem eq_of_plan {keys aggs : List NamedExpr} {maintainOrder maintainOrder' : Bool}
    {g g' : GroupBy} (hplan : plan keys aggs maintainOrder = .ok g)
    (hplan' : plan keys aggs maintainOrder' = .ok g') :
    g' = { g with maintainOrder := maintainOrder' } := by
  obtain ⟨requests, hrequests, hg⟩ := Outcome.bind_eq_ok.1 hplan
  obtain ⟨requests', hrequests', hg'⟩ := Outcome.bind_eq_ok.1 hplan'
  obtain rfl := Except.ok.inj (hrequests.symm.trans hrequests')
  injection hg with hg
  injection hg' with hg'
  rw [← hg, ← hg']

/-- **Groupings of reordered frames.** Let rows be grouped by columns, at least one, and let the
expressions be the number of rows, or reductions of columns that ignore the order of rows. On a
frame and on its rows in another order the grouping succeeds or fails alike, whether groups are
asked for in key order or in order of first appearance. The grouped frames have the same rows, in
some order; in key order they are the same frame. -/
theorem evaluate_of_reorders {keys aggs : List NamedExpr} {maintainOrder maintainOrder' : Bool}
    {g g' : GroupBy} (hplan : plan keys aggs maintainOrder = .ok g)
    (hplan' : plan keys aggs maintainOrder' = .ok g') (hne : keys ≠ [])
    (hkeys : ∀ k ∈ keys, k.value.IsColumn) (haggs : ∀ a ∈ aggs, f.OrderFree a.value)
    (h : f.Reorders f' places) :
    ((∃ out, g.evaluate f = .ok out) ↔ ∃ out', g'.evaluate f' = .ok out') ∧
      ∀ out out', g.evaluate f = .ok out → g'.evaluate f' = .ok out' →
        (∃ order, order.Perm (List.range out.rows) ∧ out' = out.select order) ∧
          (maintainOrder = false → maintainOrder' = false → out' = out) := by
  obtain rfl := eq_of_plan hplan hplan'
  obtain ⟨rfl, rfl, rfl, hg⟩ := planned_of_plan hplan
  have hg' := (planned_of_plan hplan').2.2.2
  refine ⟨⟨?_, ?_⟩, fun out out' hout hout' ↦ ?_⟩
  · rintro ⟨out, hout⟩
    obtain ⟨order, -, hout', -⟩ :=
      exists_evaluate_of_reorders h hg hne hkeys haggs hout maintainOrder'
    exact ⟨_, hout'⟩
  -- The converse puts the rows back, which is a reordering as well.
  · rintro ⟨out', hout'⟩
    obtain ⟨places', h'⟩ := h.exists_symm
    obtain ⟨order, -, hout, -⟩ := exists_evaluate_of_reorders h' hg' hne hkeys
      (fun a ha ↦ (haggs a ha).of_reorders h') hout' g.maintainOrder
    exact ⟨_, hout⟩
  · obtain ⟨order, hperm, hout'', hrange⟩ :=
      exists_evaluate_of_reorders h hg hne hkeys haggs hout maintainOrder'
    obtain rfl : out.select order = out' := Except.ok.inj (hout''.symm.trans hout')
    refine ⟨⟨order, hperm, rfl⟩, fun hsorted hsorted' ↦ ?_⟩
    rw [hrange hsorted hsorted', Frame.select_range]

/-- The total of each customer, in the order of the customers, with the last order first. -/
theorem evaluate_of_reorders_totals : ∃ out out' order, totals.evaluate ordersFrame = .ok out ∧
    { totals with maintainOrder := false }.evaluate (ordersFrame.select [2, 0, 1]) = .ok out' ∧
      order.Perm (List.range out.rows) ∧ out' = out.select order := by
  have hcustomer : customer.value.IsColumn := ⟨_, _, _, rfl⟩
  have htotal : ordersFrame.OrderFree total.value := .agg fun c hc ↦ by
    obtain rfl : _ = c := Except.ok.inj hc
    rfl
  obtain ⟨out, hout⟩ := exists_evaluate_totals
  obtain ⟨hiff, hreordered⟩ := evaluate_of_reorders (f := ordersFrame)
    (show plan [customer] [total] true = .ok totals from rfl)
    (show plan [customer] [total] false = .ok { totals with maintainOrder := false } from rfl)
    (List.cons_ne_nil _ _) (List.forall_mem_singleton.2 hcustomer)
    (List.forall_mem_singleton.2 htotal)
    (Frame.reorders_select (show [2, 0, 1].Perm (List.range ordersFrame.rows) by decide))
  obtain ⟨out', hout'⟩ := hiff.1 ⟨out, hout⟩
  obtain ⟨⟨order, hperm, heq⟩, -⟩ := hreordered out out' hout hout'
  exact ⟨out, out', order, hout, hout', hperm, heq⟩

end GroupBy

end Tabular
