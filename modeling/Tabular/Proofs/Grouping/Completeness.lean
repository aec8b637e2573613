import Tabular.Proofs.Grouping.Schema

/-!
# Which groupings succeed

That a grouping could be planned, and that its expressions can be evaluated over the whole frame,
does not mean that it succeeds. For the expressions whose requests are all answered as the plan
intends (`Frame.Groupable`) there is one reason to fail: an expression over reductions may do so on
the rows of a group alone (`GroupBy.exists_evaluate_iff`). Durations that add up for the frame need
not add up for a group (`GroupBy.not_exists_evaluate_ends`).

The other reason is a plan that cannot be carried out on any rows. The search for requests goes
through a cast as if it were evaluated row by row, and so it plans a cast of rows that are collected
into lists. Lists are cast to lists only (`Series.cast_list_ne_ok`), and such a plan fails on every
frame with groups (`GroupBy.not_exists_evaluate_of_cast`).

Both directions follow the steps of an evaluation, `GroupBy.evaluate_eq_ok`: what each of them
needs, the step before it has to give.
-/

namespace Tabular

/-- A grouping of the frame can compute the expression as it was planned. -/
inductive Frame.Groupable (f : Frame) (e : Expr) : Prop
  /-- The expression is put together row by row from reductions. -/
  | reduced : Expr.RowTree f.Reduces true e → Groupable f e
  /-- It is put together from single values. -/
  | constant : Expr.RowTree (fun _ ↦ False) false e → Groupable f e
  /-- Its rows are collected as they are. -/
  | listed : e.collect 0 = .ok [.list e] →
      (∀ s, e.values f .frame .empty = .ok s → Fits s.rows f.rows) → Groupable f e

/-- Lists are cast to lists only. -/
theorem Series.cast_list_ne_ok {s t : Series} {d item : DataType} (hs : s.dtype = .list item)
    (hd : d.isList = false) : s.cast d ≠ .ok t := by
  have hne : DataType.list item ≠ d := by
    rintro rfl
    cases hd
  have hcast : (DataType.list item).canCast d = false := by
    simp only [DataType.canCast, hne, decide_false, Bool.false_or]
    cases d with
    | list _ => cases hd
    | _ => rfl
  rw [cast, hs, if_neg hne, hcast, if_neg Bool.false_ne_true]
  intro h
  cases h

namespace GroupBy

variable {g : GroupBy} {f raw : Frame} {groups : List (List Nat)} {results : List Series}
  {a : NamedExpr} {e : Expr} {q : AggRequest} {s : Series}

/-! ### Keys and groups -/

/-- Keys that can be evaluated to rows for the frame have their series. -/
theorem exists_keySeries (h : ∀ k ∈ g.keys, ∃ s, k.value.values f .frame .empty = .ok s ∧
    Fits s.rows f.rows) : ∃ ks, g.keySeries f = .ok ks := by
  obtain ⟨columns, hcolumns⟩ : ∃ columns,
      g.keys.mapM (fun k ↦ k.value.evaluate f .frame .empty) = .ok columns := by
    refine Outcome.exists_mapM_eq_ok fun k hk ↦ ?_
    obtain ⟨s, hs, -⟩ := h k hk
    exact Expr.exists_evaluate_eq_ok.2 ⟨s, hs⟩
  obtain ⟨ks, hks⟩ : ∃ ks, columns.mapM (fun c ↦ c.series.broadcast f.rows) = .ok ks := by
    refine Outcome.exists_mapM_eq_ok fun c hc ↦ ?_
    obtain ⟨k, hk, hkc⟩ := Outcome.exists_of_mem_result hcolumns hc
    obtain ⟨s, hs, hfits⟩ := h k hk
    have hcs : k.value.values f .frame .empty = .ok c.series := Expr.values_eq_ok.2 ⟨c, hkc, rfl⟩
    rw [hs] at hcs
    injection hcs with hcs
    exact Series.exists_broadcast_iff.2 (hcs ▸ hfits)
  exact ⟨ks, Outcome.bind_eq_ok.2 ⟨columns, hcolumns, hks⟩⟩

/-- There are groups if there are no keys or there are rows. -/
theorem exists_groups {ks : List Series} (hks : g.keySeries f = .ok ks)
    (hrows : g.keys = [] ∨ 0 < f.rows) :
    ∃ groups, GroupBy.groups g.maintainOrder f ks = .ok groups ∧ f.HasGroups groups ∧
      (g.keys = [] ∨ ∀ group ∈ groups, group ≠ []) := by
  by_cases hkeys : g.keys = []
  · have hnil : ks = [] := by
      have hlen := (length_keySeries hks).1
      rw [hkeys] at hlen
      exact List.length_eq_zero_iff.1 hlen
    refine ⟨[List.range f.rows], by rw [hnil]; rfl, ⟨List.cons_ne_nil _ _, ?_, ?_⟩, .inl hkeys⟩
    · intro group hg i hi
      rw [List.mem_singleton.1 hg] at hi
      exact List.mem_range.1 hi
    · intro group hg hnil
      rw [List.mem_singleton.1 hg] at hnil
      exact List.range_eq_nil.1 hnil
  · obtain ⟨groups, hgroups, hgrouping⟩ := groups_of_keys hks hkeys
    have hne := hgrouping.ne_nil_iff.2 (hrows.resolve_left hkeys)
    exact ⟨groups, hgroups, hgrouping.hasGroups hne, .inr hgrouping.ne_nil⟩

/-! ### Answers and columns -/

/-- A request for a list is answered if the list's expression can be evaluated at the frame's
length. -/
theorem exists_answer_list (hs : e.values f .frame .empty = .ok s) (hfits : Fits s.rows f.rows) :
    ∃ t, answer f groups (.list e) = .ok t := by
  obtain ⟨values, hvalues⟩ := Series.exists_broadcast_iff.2 hfits
  obtain ⟨t, ht⟩ : ∃ t, (AggRequest.list e).reduceGroups (some values) groups = .ok t :=
    AggRequest.exists_reduceGroups rfl
  refine ⟨t, Outcome.bind_eq_ok.2 ⟨some values, Outcome.optionMapM_eq_ok.2 (.some ?_), ht⟩⟩
  rw [evaluateFully_eq, hs]
  exact hvalues

/-- A request of a tree is answered if the tree can be evaluated over the frame and over the rows of
every group. -/
theorem exists_answer_reduced (hgroups : f.HasGroups groups) {varying : Bool}
    (htree : Expr.RowTree f.Reduces varying e) {rs : List AggRequest}
    (hrs : Expr.Collects 0 e rs) (hq : q ∈ rs) (hs : e.values f .frame .empty = .ok s)
    (hparts : ∀ group ∈ groups, ∃ t, e.values (f.select group) .frame .empty = .ok t) :
    ∃ t, answer f groups q = .ok t := by
  have hself := Expr.requestThemselves_reduces f
  have hreduces : f.Reduces q.owner := htree.owner hself hrs hq
  -- where the whole tree is evaluated, the owner of the request is
  have howner {f' : Frame} {t : Series} (ht : e.values f' .frame .empty = .ok t) :
      ∃ u, q.owner.values f' .frame .empty = .ok u :=
    ((htree.evaluated ht).owner (hself.mono fun _ ↦ And.left) hrs hq).2
  obtain ⟨values, hvalues⟩ := exists_input (hrs.owner hq) hreduces (howner hs)
  obtain ⟨t, ht⟩ := (agrees_request (hrs.owner hq) hreduces hvalues hgroups).complete fun i hi ↦ by
    rw [List.getD_eq_getElem _ _ hi]
    obtain ⟨t, ht⟩ := hparts _ (List.getElem_mem hi)
    exact howner ht
  exact ⟨t, Outcome.bind_eq_ok.2 ⟨values, hvalues, ht⟩⟩

/-- The expressions of the grouping that are put together from reductions can be evaluated over the
rows of every group. -/
def ReducesGroups (g : GroupBy) (f : Frame) (groups : List (List Nat)) : Prop :=
  ∀ a ∈ g.aggs, Expr.RowTree f.Reduces true a.value → ∀ group ∈ groups,
    ∃ s, a.value.values (f.select group) .frame .empty = .ok s

/-- If the reductions succeed on every group, all requests are answered. -/
theorem exists_results (hg : g.Planned) (hgroups : f.HasGroups groups)
    (haggs : ∀ a ∈ g.aggs, f.Groupable a.value ∧ ∃ s, a.value.values f .frame .empty = .ok s)
    (hparts : g.ReducesGroups f groups) : ∃ results, g.results f groups = .ok results := by
  obtain ⟨results, hresults⟩ : ∃ results, g.requests.mapM (answer f groups) = .ok results := by
    refine Outcome.exists_mapM_eq_ok fun q hq ↦ ?_
    obtain ⟨a, ha, rs, hrs, hq⟩ := hg.requested q hq
    obtain ⟨hgroupable, s, hs⟩ := haggs a ha
    cases hgroupable with
    | reduced htree => exact exists_answer_reduced hgroups htree hrs hq hs (hparts a ha htree)
    | constant htree =>
      -- single values ask for nothing
      have hnil := (htree.requests (fun _ _ hx ↦ hx.elim) hrs).1.1 rfl
      rw [hnil] at hq
      cases hq
    | listed hcollect hfits =>
      rw [hrs.collect_eq] at hcollect
      injection hcollect with hcollect
      rw [hcollect, List.mem_singleton] at hq
      exact hq ▸ exists_answer_list hs (hfits s hs)
  exact ⟨results, results_eq_ok.2 hresults⟩

/-- With all requests answered, every expression gives a column. -/
theorem exists_aggColumn_of_results (hg : g.Planned) (hgroups : f.HasGroups groups)
    (hresults : g.results f groups = .ok results) (ha : a ∈ g.aggs)
    (hgroupable : f.Groupable a.value) (hs : a.value.values f .frame .empty = .ok s)
    (hparts : g.ReducesGroups f groups) :
    ∃ c, aggColumn raw (g.mapping results) groups.length a = .ok c := by
  cases hgroupable with
  | reduced htree =>
    have hagrees : Agrees groups.length (a.value.values raw .groupBy (g.mapping results)) _ :=
      agrees_tree hg hresults hgroups ha htree
    obtain ⟨t, ht⟩ := hagrees.complete fun i hi ↦ by
      rw [List.getD_eq_getElem _ _ hi]
      exact hparts a ha htree _ (List.getElem_mem hi)
    exact exists_aggColumn ht (hagrees.fits ht)
  | constant htree =>
    -- the value is the one over the frame, since nothing of it is found in the mapping
    have hmiss : (g.mapping results).MissesOperations fun _ ↦ False :=
      missesOperations_mapping hg fun _ _ hx ↦ hx.elim
    have hconst : a.value.values raw .groupBy (g.mapping results) = .ok s :=
      (htree.values_const hmiss (Mapping.missesOperations_empty _)).trans hs
    exact exists_aggColumn hconst (.inr (htree.length_const hmiss hconst))
  | listed hcollect _ =>
    -- the whole expression is found in the mapping
    obtain ⟨rs, hrs, hmem⟩ := hg.collects a ha
    rw [hrs.collect_eq] at hcollect
    injection hcollect with hcollect
    obtain ⟨t, hfind, hanswer⟩ :=
      find?_mapping_owner hg hresults (hmem (.list a.value) (hcollect ▸ List.mem_singleton_self _))
    obtain ⟨values, -, ht⟩ := Outcome.bind_eq_ok.1 hanswer
    exact exists_aggColumn (Expr.values_of_find?_eq_some hfind)
      (.inl (AggRequest.length_reduceGroups ht))

/-- Columns of keys and expressions with distinct names form a frame. -/
theorem exists_groupedFrame {ks : List Series} {columns : List NamedColumn}
    (hks : g.keySeries f = .ok ks) (hreps : g.keys = [] ∨ ∀ group ∈ groups, group ≠ [])
    (hcolumns : g.aggs.mapM (aggColumn raw (g.mapping results) groups.length) = .ok columns)
    (hnames : ((g.keys ++ g.aggs).map NamedExpr.name).Nodup) :
    ∃ out, Frame.ofColumns (List.zipWith (keyColumn groups) g.keys ks ++ columns) = .ok out := by
  rw [zipWith_keyColumn]
  refine Frame.exists_ofColumns (n := groups.length) (fun c hc ↦ ?_) ?_
  -- Keys and aggregations give columns of one length, that of the groups.
  · rcases List.mem_append.1 hc with hc | hc
    · obtain ⟨p, hp, rfl⟩ := List.mem_map.1 hc
      have hkeys : g.keys ≠ [] := List.ne_nil_of_mem (List.of_mem_zip hp).1
      exact length_keyColumn (hreps.resolve_left hkeys) p.1 p.2
    · obtain ⟨a, -, hcolumn⟩ := Outcome.exists_of_mem_result hcolumns hc
      obtain ⟨-, s, -, hbroadcast⟩ := aggColumn_eq_ok hcolumn
      exact Series.length_broadcast hbroadcast
  -- The columns have the names that were asked for, and these are distinct.
  · have hkeyNames : ((g.keys.zip ks).map fun p ↦ keyColumn groups p.1 p.2).map NamedColumn.name =
        g.keys.map NamedExpr.name := by
      have hfst : (g.keys.zip ks).map Prod.fst = g.keys :=
        List.map_fst_zip (Nat.le_of_eq (length_keySeries hks).1.symm)
      conv_rhs => rw [← hfst, List.map_map]
      rw [List.map_map]
      rfl
    have haggNames : columns.map NamedColumn.name = g.aggs.map NamedExpr.name := by
      have hrel : List.Forall₂ (· = ·) (columns.map NamedColumn.name)
          (g.aggs.map NamedExpr.name) := by
        rw [List.forall₂_map_left_iff, List.forall₂_map_right_iff]
        exact (Outcome.mapM_eq_ok.1 hcolumns).flip.imp fun _ _ h ↦ (aggColumn_eq_ok h).1
      rwa [List.forall₂_eq_eq_eq] at hrel
    rwa [List.map_append, hkeyNames, haggNames, ← List.map_append]

/-- With the requests answered, and a column of each expression over the results, an evaluation
succeeds and has these columns. -/
theorem exists_evaluate_of_results {ks : List Series} (hks : g.keySeries f = .ok ks)
    (hgroups : GroupBy.groups g.maintainOrder f ks = .ok groups)
    (hreps : g.keys = [] ∨ ∀ group ∈ groups, group ≠ [])
    (hnames : ((g.keys ++ g.aggs).map NamedExpr.name).Nodup)
    (hresults : g.results f groups = .ok results)
    (haggs : ∀ raw, ∀ a ∈ g.aggs, ∃ c, aggColumn raw (g.mapping results) groups.length a = .ok c) :
    ∃ raw out, g.evaluate f = .ok out ∧
      ∀ a ∈ g.aggs, ∃ c, aggColumn raw (g.mapping results) groups.length a = .ok c ∧
        out.column a.name = .ok c.column := by
  obtain ⟨raw, hraw⟩ : ∃ raw, resultFrame results groups.length = .ok raw :=
    exists_resultFrame fun s ↦ length_of_results hresults
  obtain ⟨columns, hcolumns⟩ : ∃ columns,
      g.aggs.mapM (aggColumn raw (g.mapping results) groups.length) = .ok columns :=
    Outcome.exists_mapM_eq_ok (haggs raw)
  obtain ⟨out, hframe⟩ := exists_groupedFrame hks hreps hcolumns hnames
  exact ⟨raw, out, evaluate_eq_ok.2 ⟨ks, groups, results, raw, columns, hks, hgroups, hresults,
    hraw, hcolumns, hframe⟩, fun a ha ↦ exists_column_of_mem hcolumns hframe ha⟩

/-- The steps of an evaluation after the groups succeed if the requests are answered. -/
theorem exists_evaluate (hg : g.Planned) {ks : List Series} (hks : g.keySeries f = .ok ks)
    (hgroups : GroupBy.groups g.maintainOrder f ks = .ok groups) (hhas : f.HasGroups groups)
    (hreps : g.keys = [] ∨ ∀ group ∈ groups, group ≠ [])
    (hnames : ((g.keys ++ g.aggs).map NamedExpr.name).Nodup)
    (haggs : ∀ a ∈ g.aggs, f.Groupable a.value ∧ ∃ s, a.value.values f .frame .empty = .ok s)
    (hparts : g.ReducesGroups f groups) : ∃ out, g.evaluate f = .ok out := by
  obtain ⟨results, hresults⟩ := exists_results hg hhas haggs hparts
  obtain ⟨-, out, hout, -⟩ := exists_evaluate_of_results hks hgroups hreps hnames hresults
    fun raw a ha ↦ by
      obtain ⟨hgroupable, s, hs⟩ := haggs a ha
      exact exists_aggColumn_of_results hg hhas hresults ha hgroupable hs hparts
  exact ⟨out, hout⟩

/-- A grouping that succeeds reduces the rows of every group. -/
theorem reducesGroups_of_evaluate (hg : g.Planned) {ks : List Series} {out : Frame}
    (hks : g.keySeries f = .ok ks) (hgroups : GroupBy.groups g.maintainOrder f ks = .ok groups)
    (hhas : f.HasGroups groups) (hout : g.evaluate f = .ok out) : g.ReducesGroups f groups := by
  intro a ha htree group hgroup
  obtain ⟨ks', groups', results, raw, columns, hks', hgroups', hresults, -, hcolumns, -⟩ :=
    evaluate_eq_ok.1 hout
  obtain rfl : ks = ks' := by
    rw [hks] at hks'
    injection hks'
  obtain rfl : groups = groups' := by
    rw [hgroups] at hgroups'
    injection hgroups'
  obtain ⟨i, hi, rfl⟩ := List.mem_iff_getElem.1 hgroup
  obtain ⟨c, -, hcolumn⟩ := Outcome.exists_of_mem hcolumns ha
  obtain ⟨-, s, hs, -⟩ := aggColumn_eq_ok hcolumn
  have hpick := (agrees_tree hg hresults hhas ha htree).pick hs i hi
  rw [List.getD_eq_getElem _ _ hi] at hpick
  exact ⟨_, hpick⟩

/-- **When a planned grouping succeeds.** Its keys can be evaluated over the frame, to as many rows
or a single one, and so can its expressions, which the grouping can compute as planned; and there is
a row if there are keys. Then the rows fall into groups, and the grouping succeeds exactly when the
expressions put together from reductions can be evaluated over the rows of every group. -/
theorem exists_evaluate_iff {keys aggs : List NamedExpr} {maintainOrder : Bool}
    (hplan : plan keys aggs maintainOrder = .ok g)
    (hnames : ((keys ++ aggs).map NamedExpr.name).Nodup)
    (hkeys : ∀ k ∈ keys, ∃ s, k.value.values f .frame .empty = .ok s ∧ Fits s.rows f.rows)
    (haggs : ∀ a ∈ aggs, f.Groupable a.value ∧ ∃ s, a.value.values f .frame .empty = .ok s)
    (hrows : keys = [] ∨ 0 < f.rows) :
    ∃ groups, g.rowGroups f = .ok groups ∧
      ((∃ out, g.evaluate f = .ok out) ↔ ∀ a ∈ aggs, Expr.RowTree f.Reduces true a.value →
        ∀ group ∈ groups, ∃ s, a.value.values (f.select group) .frame .empty = .ok s) := by
  obtain ⟨rfl, rfl, -, hg⟩ := planned_of_plan hplan
  obtain ⟨ks, hks⟩ := exists_keySeries hkeys
  obtain ⟨groups, hgroups, hhas, hreps⟩ := exists_groups hks hrows
  refine ⟨groups, Outcome.bind_eq_ok.2 ⟨ks, hks, hgroups⟩, ?_, fun hparts ↦ ?_⟩
  · rintro ⟨out, hout⟩
    exact reducesGroups_of_evaluate hg hks hgroups hhas hout
  · exact exists_evaluate hg hks hgroups hhas hreps hnames haggs hparts

/-! ### Sums of durations -/

/-- Four stays of two visitors, none at all or as long as can be. -/
def visitsFrame : Frame :=
  ⟨[⟨"visitor", { series := ⟨.int64, [1, 2, 2, 1].map fun i ↦ some (FixedInt.wrap .int64 i)⟩ }⟩,
    ⟨"stay", { series := ⟨.duration .microsecond,
      [0, 9223372036854775807, 9223372036854775807, 0].map fun i ↦
        some (FixedInt.wrap .int64 i)⟩ }⟩], rfl⟩

/-- The key of the visits. -/
def visitor : NamedExpr := ⟨"visitor", .node .int64 (.col "visitor") []⟩

/-- The first stay or the last. -/
def stay (g : AggFunction) : Expr :=
  .node (.duration .microsecond) (.agg g) [.node (.duration .microsecond) (.col "stay") []]

/-- The first stay and the last together. -/
def ends : NamedExpr :=
  ⟨"ends", .node (.duration .microsecond) (.binOp (.arithmetic .add)) [stay .first, stay .last]⟩

theorem declares_ends : visitsFrame.Declares ends.value := by
  have hcol : visitsFrame.Declares (.node (.duration .microsecond) (.col "stay") []) := .col rfl rfl
  have hstay (g : AggFunction) : visitsFrame.Declares (stay g) :=
    .node nofun (List.forall_mem_singleton.2 hcol)
  exact .node nofun (List.forall_mem_cons.2 ⟨hstay _, List.forall_mem_singleton.2 (hstay _)⟩)

theorem keepsTypes_ends : ends.value.KeepsTypes := by
  have hstay (g : AggFunction) : (stay g).KeepsTypes :=
    .node nofun (List.forall_mem_singleton.2 (.node nofun nofun))
  exact .node nofun (List.forall_mem_cons.2 ⟨hstay _, List.forall_mem_singleton.2 (hstay _)⟩)

theorem wellFormed_ends : ends.value.WellFormed := by
  have hstay (g : AggFunction) (hg : g = .first ∨ g = .last) : (stay g).WellFormed := by
    have hcol : Expr.WellFormed (.node (.duration .microsecond) (.col "stay") []) :=
      .node nofun rfl rfl
    rcases hg with rfl | rfl
    all_goals exact .node (fun c hc ↦ List.mem_singleton.1 hc ▸ hcol) rfl rfl
  refine .node (fun c hc ↦ ?_) rfl rfl
  simp only [List.mem_cons, List.not_mem_nil, or_false] at hc
  rcases hc with rfl | rfl
  · exact hstay _ (.inl rfl)
  · exact hstay _ (.inr rfl)

theorem rowTree_ends : Expr.RowTree visitsFrame.Reduces true ends.value := by
  have hstay (g : AggFunction) : Expr.RowTree Expr.IsColumnReduction true (stay g) :=
    .base (.agg nofun (.base ⟨_, _, _, rfl⟩))
  exact (Expr.RowTree.binOp (hstay _) (hstay _) rfl).reduces (show 0 < 4 by omega)
    keepsTypes_ends declares_ends

/-- The sum of the first and the last stay is planned, and its groups decide. -/
theorem exists_evaluate_iff_ends :
    ∃ g groups, plan [visitor] [ends] true = .ok g ∧ g.rowGroups visitsFrame = .ok groups ∧
      ((∃ out, g.evaluate visitsFrame = .ok out) ↔
        ∀ a ∈ [ends], Expr.RowTree visitsFrame.Reduces true a.value → ∀ group ∈ groups,
          ∃ s, a.value.values (visitsFrame.select group) .frame .empty = .ok s) := by
  have hplan : plan [visitor] [ends] true = .ok _ := rfl
  obtain ⟨groups, hgroups, hiff⟩ := exists_evaluate_iff (f := visitsFrame) hplan (by decide)
    (fun k hk ↦ List.mem_singleton.1 hk ▸ ⟨_, rfl, .inl rfl⟩)
    (fun a ha ↦ List.mem_singleton.1 ha ▸ ⟨.reduced rowTree_ends, _, rfl⟩)
    (.inr (show 0 < 4 by omega))
  exact ⟨_, groups, hplan, hgroups, hiff⟩

/-- **Sums over a frame say nothing about its groups.** The first and the last of all the stays add
up, but the stays of the second visitor do not, and so the grouping fails. -/
theorem not_exists_evaluate_ends :
    (([visitor] ++ [ends]).map NamedExpr.name).Nodup ∧ ends.value.WellFormed ∧
      visitsFrame.Declares ends.value ∧
      (∃ s, visitor.value.values visitsFrame .frame .empty = .ok s ∧
        s.length = visitsFrame.rows) ∧
      (∃ s, ends.value.values visitsFrame .frame .empty = .ok s) ∧
      ∃ g, plan [visitor] [ends] true = .ok g ∧ ¬∃ out, g.evaluate visitsFrame = .ok out := by
  refine ⟨by decide, wellFormed_ends, declares_ends, ⟨_, rfl, rfl⟩, ⟨_, rfl⟩, ?_⟩
  have hplan : plan [visitor] [ends] true = .ok _ := rfl
  refine ⟨_, hplan, ?_⟩
  rintro ⟨out, hout⟩
  obtain ⟨-, haggs, -, hg⟩ := planned_of_plan hplan
  -- if the grouping succeeded, so would the sum for the second visitor
  have hhas : visitsFrame.HasGroups [[0, 3], [1, 2]] := ⟨by decide, by decide, by decide⟩
  obtain ⟨s, hs⟩ := reducesGroups_of_evaluate hg rfl rfl hhas hout ends
    (haggs ▸ List.mem_singleton_self _) rowTree_ends [1, 2] (by decide)
  have hfails : ∃ e, ends.value.values (visitsFrame.select [1, 2]) .frame .empty = .error e :=
    ⟨_, rfl⟩
  obtain ⟨e, he⟩ := hfails
  rw [hs] at he
  cases he

/-! ### Casts of collected rows -/

/-- An expression that fails over the results has no column. -/
theorem aggColumn_eq_error {m : Mapping} {n : Nat} {err : Error}
    (h : a.value.values raw .groupBy m = .error err) : aggColumn raw m n a = .error err := by
  unfold Expr.values at h
  unfold aggColumn
  cases he : a.value.evaluate raw .groupBy m with
  | error err' =>
    rw [he] at h
    cases h
    rfl
  | ok c =>
    rw [he] at h
    cases h

/-- An evaluation fails with the error of the columns, if it gets that far. -/
theorem evaluate_eq_error {ks : List Series} {err : Error} (hks : g.keySeries f = .ok ks)
    (hgroups : GroupBy.groups g.maintainOrder f ks = .ok groups)
    (hresults : g.results f groups = .ok results)
    (hraw : resultFrame results groups.length = .ok raw)
    (hcolumns : g.aggs.mapM (aggColumn raw (g.mapping results) groups.length) = .error err) :
    g.evaluate f = .error err := by
  simp only [evaluate, hks, hgroups, hresults, hraw, hcolumns, Outcome.ok_bind]
  rfl

/-- **A cast of collected rows is planned, and fails** on every frame with groups: the search for
requests looks through the cast and asks for the list of what stands below it, and no list casts to
a type of other values. -/
theorem not_exists_evaluate_of_cast {keys aggs : List NamedExpr} {maintainOrder : Bool}
    {d : DataType} (hplan : plan keys aggs maintainOrder = .ok g) (ha : a ∈ aggs)
    (hvalue : a.value = .node d .cast [e]) (hcollect : e.collect 0 = .ok [.list e])
    (hd : d.isList = false) (hrows : keys = [] ∨ 0 < f.rows) : ¬∃ out, g.evaluate f = .ok out := by
  rintro ⟨out, hout⟩
  obtain ⟨rfl, rfl, -, hg⟩ := planned_of_plan hplan
  obtain ⟨ks, groups, results, raw, columns, hks, hgroups, hresults, -, hcolumns, -⟩ :=
    evaluate_eq_ok.1 hout
  obtain ⟨groups', hgroups', hhas, -⟩ := exists_groups hks hrows
  obtain rfl : groups = groups' := Except.ok.inj (hgroups.symm.trans hgroups')
  -- the lists are found under the child of the cast, and the cast is no request of its own
  obtain ⟨rs, hrs, hmem⟩ := hg.collects a ha
  rw [hvalue] at hrs
  obtain rfl : rs = [.list e] := hrs.unique (.cast (.of_collect hcollect))
  have hcast : (g.mapping results).find? (.node d .cast [e]) = none := by
    refine find?_mapping_of_not_owns fun ⟨q, hq, howner⟩ ↦ ?_
    obtain ⟨_, -, _, hq', hmem⟩ := hg.requested q hq
    have hkind := hq'.owner_kind hmem
    rw [howner] at hkind
    rcases hkind with ⟨_, h⟩ | h | ⟨_, h⟩ | ⟨_, h⟩ <;> cases h
  obtain ⟨t, hfind, hanswer⟩ := find?_mapping_owner hg hresults (hmem _ (List.mem_singleton_self _))
  obtain ⟨c, -, hcolumn⟩ := Outcome.exists_of_mem hcolumns ha
  obtain ⟨-, s, hs, -⟩ := aggColumn_eq_ok hcolumn
  rw [hvalue] at hs
  obtain ⟨_, t', heq, ht', hs⟩ := Expr.exists_of_values_cast hcast hs
  obtain rfl := (List.cons.inj heq).1
  obtain rfl : t = t' := Except.ok.inj ((Expr.values_of_find?_eq_some hfind).symm.trans ht')
  obtain ⟨values, -, ht⟩ := Outcome.bind_eq_ok.1 hanswer
  have htype : t.dtype = .list ((values.map Series.dtype).getD .null) :=
    (dtype_reduceGroups ht).trans (if_neg hhas.ne_nil)
  exact Series.cast_list_ne_ok htype hd hs

/-- What visitors paid, once by each of two and once again by the first, who paid nothing then. -/
def tollsFrame : Frame :=
  ⟨[⟨"visitor", { series := ⟨.int64, [1, 1, 2].map fun i ↦ some (FixedInt.wrap .int64 i)⟩ }⟩,
    ⟨"toll", { series := ⟨.int64, [some (FixedInt.wrap .int64 1), none,
      some (FixedInt.wrap .int64 3)]⟩ }⟩], rfl⟩

/-- The tolls as floating-point numbers. -/
def tolls : NamedExpr := ⟨"toll", .node .float64 .cast [.node .int64 (.col "toll") []]⟩

theorem declares_tolls : tollsFrame.Declares tolls.value :=
  .node (fun _ h ↦ by cases h) (List.forall_mem_singleton.2 (.col rfl rfl))

theorem wellFormed_tolls : tolls.value.WellFormed := by
  have hcol : Expr.WellFormed (.node .int64 (.col "toll") []) :=
    .node (List.forall_mem_nil _) rfl rfl
  exact .node (List.forall_mem_singleton.2 hcol) rfl rfl

/-- The tolls of each visitor, as they are planned. -/
def tollsListed : GroupBy :=
  ⟨[visitor], [tolls], true, [.list (.node .int64 (.col "toll") [])]⟩

/-- The cast finds the lists under the column of the tolls. -/
theorem mapM_aggColumn_tolls {s : Series} (hs : s.dtype = .list .int64) (n : Nat) (raw : Frame) :
    [tolls].mapM (aggColumn raw (tollsListed.mapping [s]) n) =
      unsupported (.cast (.list .int64) .float64) := by
  have hcol : (tollsListed.mapping [s]).find? (.node .int64 (.col "toll") []) =
      some { series := s } := Mapping.find?_insert_self _ _ _
  have hcast : (tollsListed.mapping [s]).find? tolls.value = none :=
    (Mapping.find?_insert _ _ _ _).trans (if_neg fun h ↦ by cases h)
  have hvalues : tolls.value.values raw .groupBy (tollsListed.mapping [s]) =
      unsupported (.cast (.list .int64) .float64) := by
    rw [tolls, Expr.values_cast hcast, Expr.values_of_find?_eq_some hcol, Outcome.ok_bind,
      Series.cast, hs]
    rfl
  rw [List.mapM_cons, aggColumn_eq_error hvalues]
  rfl

/-- The tolls of each visitor are no numbers that could be cast. -/
theorem not_exists_evaluate_tolls :
    (([visitor] ++ [tolls]).map NamedExpr.name).Nodup ∧ tolls.value.WellFormed ∧
      tollsFrame.Declares tolls.value ∧
      (∃ s, visitor.value.values tollsFrame .frame .empty = .ok s ∧ s.length = tollsFrame.rows) ∧
      (∃ s, tolls.value.values tollsFrame .frame .empty = .ok s) ∧
      ∃ g, plan [visitor] [tolls] true = .ok g ∧
        g.evaluate tollsFrame = unsupported (.cast (.list .int64) .float64) :=
  ⟨by decide, wellFormed_tolls, declares_tolls, ⟨_, rfl, rfl⟩, ⟨_, rfl⟩, tollsListed, rfl,
    evaluate_eq_error rfl rfl rfl rfl (mapM_aggColumn_tolls rfl _ _)⟩

end GroupBy

end Tabular
