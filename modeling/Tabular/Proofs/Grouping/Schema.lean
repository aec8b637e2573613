import Tabular.Proofs.Grouping.Agreement
import Tabular.Proofs.Grouping.Independence
import Tabular.Proofs.Types.Result

/-!
# The schema of a grouped frame

A plan that is carried out on two frames with the same columns of the same types gives frames with
the same columns. Their types are the same as well, with one exception. Rows that no reduction
encloses are collected into lists, one for each group, and where there is no group the collected
rows are an empty series of the type of the rows: the type of a list is taken from the first one. So
a column of lists is one of plain rows for a frame without rows, and this is the only difference
that the number of rows and their values can make (`GroupBy.schema_eq_iff`); lists of amounts are
none where there are no orders (`GroupBy.not_schema_eq_amounts`).

Over the frames themselves there is no difference, since the type of a value does not depend on rows
(`Expr.dtype_eq_of_schema_eq`). Over the results there is. What is proved is about two runs: an
induction on the search for requests relates the types that an expression has over the results of
either run (`GroupBy.typedAlike_of_collects`).
-/

namespace Tabular

/-! ### Frames of one schema -/

/-- The name and the type of the column. -/
def NamedColumn.field (c : NamedColumn) : String × DataType := (c.name, c.column.dtype)

/-- The names and the types of the columns. -/
def Frame.schema (f : Frame) : List (String × DataType) := f.columns.map NamedColumn.field

/-- Frames of one schema have columns of one type under the same name. -/
theorem Frame.dtype_eq_of_schema_eq {f f' : Frame} (hschema : f.schema = f'.schema) {name : String}
    {c c' : Column} (h : f.column name = .ok c) (h' : f'.column name = .ok c') :
    c.dtype = c'.dtype := by
  have hmem : (name, c.dtype) ∈ f'.schema := hschema ▸ List.mem_map_of_mem (column_eq_ok h)
  obtain ⟨c₀, hc₀, heq⟩ := List.mem_map.1 hmem
  injection heq with hname hdtype
  subst hname
  rw [column_of_mem hc₀] at h'
  injection h' with h'
  rw [← h', hdtype]

/-- **Over frames of one schema an expression has one type**, declared or not. -/
theorem Expr.dtype_eq_of_schema_eq {f f' : Frame} (hschema : f.schema = f'.schema) {e : Expr}
    (he : e.WellFormed) {c c' : Column} (h : e.evaluate f .frame .empty = .ok c)
    (h' : e.evaluate f' .frame .empty = .ok c') : c.dtype = c'.dtype := by
  induction e using Expr.induction generalizing c c' with
  | node d k cs ih =>
    obtain ⟨hcs, -, hcheck⟩ := he
    by_cases hcol : ∃ name, k = .col name
    · obtain ⟨name, rfl⟩ := hcol
      exact Frame.dtype_eq_of_schema_eq hschema h h'
    · -- everything else has a type that is told from those of the children
      have hno (f : Frame) (name : String) (c : Column) (hk : k = .col name)
          (_ : f.column name = .ok c) : c.dtype = d := absurd ⟨name, hk⟩ hcol
      rw [evaluate_eq_bind hcheck] at h h'
      obtain ⟨columns, hcolumns, h⟩ := Outcome.bind_eq_ok.1 h
      obtain ⟨columns', hcolumns', h'⟩ := Outcome.bind_eq_ok.1 h'
      have htypes : columns.map Column.dtype = columns'.map Column.dtype :=
        (Outcome.map_eq_map_iff_of_mapM hcolumns hcolumns' fun x hx _ _ hc hc' ↦ iff_true_intro
          (ih x (List.mem_of_mem_take hx) (hcs x (List.mem_of_mem_take hx)) hc hc')).2
            fun _ _ ↦ trivial
      rw [dtype_evaluateNode hcheck (hno f) h, dtype_evaluateNode hcheck (hno f') h', htypes]

/-! ### Types over results -/

namespace Expr

/-- Over the results of a grouping the expression stands for collected rows: it is a column, an
operation on columns and constants alone, or such an expression under functions that keep the type
of their column. -/
inductive ListsRows : Expr → Prop
  | col {d : DataType} {name : String} {cs : List Expr} : ListsRows (node d (.col name) cs)
  | operation {d : DataType} {op : BinaryOp} {cs : List Expr} :
      Collects 0 (node d (.binOp op) cs) [.list (node d (.binOp op) cs)] →
      ListsRows (node d (.binOp op) cs)
  | function {d : DataType} {g : UnaryFunction} {c : Expr} {cs : List Expr} :
      g.keepsType = true → ListsRows c → ListsRows (node d (.unaryFunction g) (c :: cs))

variable {raw : Frame} {m : Mapping} {d : DataType} {s : Series}

/-- Constants, casts and binary operations have the type that they declare. -/
theorem dtype_values_of_operation {k : Kind} {cs : List Expr} (hm : m.find? (node d k cs) = none)
    (hk : k.isOperation = true) (hf : ∀ g, k ≠ .unaryFunction g)
    (hs : (node d k cs).values raw .groupBy m = .ok s) : s.dtype = d := by
  rw [values_node hm] at hs
  obtain ⟨c, hc, rfl⟩ := Outcome.map_eq_ok.1 hs
  cases k with
  | literal v => exact Column.dtype_of_plain (fun _ ↦ Literal.dtype_toSeries) hc
  | literalColumn stored => exact Column.dtype_of_plain (fun _ ↦ Series.cast_dtype) hc
  | cast | binOp =>
    obtain ⟨columns, -, hc⟩ := Outcome.bind_eq_ok.1 hc
    exact Kind.dtype_onColumns hc
  | unaryFunction g => exact absurd rfl (hf g)
  | _ => cases hk

/-- A function has the type of its column, or the one that it declares. -/
theorem dtype_values_of_function {g : UnaryFunction} {c : Expr} {cs : List Expr}
    (hm : m.find? (node d (.unaryFunction g) (c :: cs)) = none)
    (hs : (node d (.unaryFunction g) (c :: cs)).values raw .groupBy m = .ok s) :
    ∃ t, c.values raw .groupBy m = .ok t ∧ s.dtype = if g.keepsType then t.dtype else d := by
  rw [values_node hm] at hs
  obtain ⟨out, hout, rfl⟩ := Outcome.map_eq_ok.1 hs
  obtain ⟨col, hcol, hout⟩ := Outcome.bind_eq_ok.1 hout
  exact ⟨_, values_eq_ok.2 ⟨col, hcol, rfl⟩, UnaryFunction.dtype_onColumn hout⟩

end Expr

namespace GroupBy

/-- The type of rows of type `t` that are collected from groups. -/
def collectedType (groups : List (List Nat)) (t : DataType) : DataType :=
  if groups = [] then t else .list t

/-- The type of the results of a request. -/
theorem dtype_reduceGroups {q : AggRequest} {values : Option Series} {groups : List (List Nat)}
    {s : Series} (h : q.reduceGroups values groups = .ok s) :
    s.dtype = if q.reduction.isCollectList
      then collectedType groups ((values.map Series.dtype).getD .null) else q.owner.dtype := by
  obtain ⟨parts, hparts, h⟩ := Outcome.bind_eq_ok.1 h
  split at h
  · next hlist =>
    injection h with h
    rw [if_pos hlist]
    obtain ⟨xs, rfl⟩ := exists_singles (fun _ _ ↦ AggRequest.reduceGroup_eq_ok) hparts
    have hlen := (Outcome.mapM_eq_ok.1 hparts).length_eq
    rw [List.length_map] at hlen
    unfold collectedType
    split
    · next hgroups =>
      -- without groups there is no part to take the type of lists from
      rw [hgroups] at hlen
      obtain rfl := List.length_eq_zero_iff.1 hlen.symm
      exact h ▸ rfl
    · next hgroups =>
      have hxs : xs ≠ [] := by
        rintro rfl
        exact hgroups (List.length_eq_zero_iff.1 hlen)
      rw [stack_single _ hxs] at h
      have hdtype : s.dtype = q.reduction.resultType ((values.map Series.dtype).getD .null) :=
        h ▸ rfl
      rw [hdtype, Aggregation.eq_collectList hlist]
      rfl
  · next hlist => rw [if_neg hlist, Series.cast_dtype h]

section TwoRuns

variable {g : GroupBy} {f f' raw raw' : Frame} {groups groups' : List (List Nat)}
  {results results' : List Series} {e : Expr} {s s' : Series}

/-- Two series are typed alike: both hold rows of one type collected from the groups, if the
expression lists rows, and otherwise they have the same type. -/
def TypedAlike (groups groups' : List (List Nat)) (e : Expr) (s s' : Series) : Prop :=
  (e.ListsRows ∧ ∃ t, s.dtype = collectedType groups t ∧ s'.dtype = collectedType groups' t) ∨
    (¬e.ListsRows ∧ s.dtype = s'.dtype)

/-- Lists of an expression are typed alike in two runs. -/
theorem TypedAlike.of_answer (he : e.WellFormed) (hlists : e.ListsRows)
    (hschema : f.schema = f'.schema) (h : answer f groups (.list e) = .ok s)
    (h' : answer f' groups' (.list e) = .ok s') : TypedAlike groups groups' e s s' := by
  have hanswer {f : Frame} {groups : List (List Nat)} {s : Series}
      (h : answer f groups (.list e) = .ok s) :
      ∃ c, e.evaluate f .frame .empty = .ok c ∧ s.dtype = collectedType groups c.dtype := by
    obtain ⟨values, hvalues, h⟩ := Outcome.bind_eq_ok.1 h
    obtain ⟨ht⟩ := Outcome.optionMapM_eq_ok.1 hvalues
    obtain ⟨c, hc, ht⟩ := Outcome.bind_eq_ok.1 ht
    refine ⟨c, hc, ?_⟩
    rw [dtype_reduceGroups h, Option.map_some, Option.getD_some, Series.dtype_broadcast ht]
    rfl
  obtain ⟨c, hc, hs⟩ := hanswer h
  obtain ⟨c', hc', hs'⟩ := hanswer h'
  exact .inl ⟨hlists, c.dtype, hs, Expr.dtype_eq_of_schema_eq hschema he hc hc' ▸ hs'⟩

/-- Results of a reduction have the type of its owner in every run. -/
theorem dtype_answer {q : AggRequest} (hq : q.reduction.isCollectList = false)
    (h : answer f groups q = .ok s) : s.dtype = q.owner.dtype := by
  obtain ⟨values, -, h⟩ := Outcome.bind_eq_ok.1 h
  rw [dtype_reduceGroups h, hq, if_neg Bool.false_ne_true]

variable (hg : g.Planned) (hschema : f.schema = f'.schema)
  (h : g.results f groups = .ok results) (h' : g.results f' groups' = .ok results')

include hg hschema h h'

/-- **Over the results of two runs an expression is typed alike.** -/
theorem typedAlike_of_collects (he : e.WellFormed) {rs : List AggRequest}
    (hrs : Expr.Collects 0 e rs) (hmem : ∀ q ∈ rs, q ∈ g.requests)
    (hs : e.values raw .groupBy (g.mapping results) = .ok s)
    (hs' : e.values raw' .groupBy (g.mapping results') = .ok s') :
    TypedAlike groups groups' e s s' := by
  -- what is requested is looked up in both runs, with the answers
  have hlist {e : Expr} {s s' : Series} (he : e.WellFormed) (hlists : e.ListsRows)
      (hq : AggRequest.list e ∈ g.requests)
      (hs : e.values raw .groupBy (g.mapping results) = .ok s)
      (hs' : e.values raw' .groupBy (g.mapping results') = .ok s') :
      TypedAlike groups groups' e s s' :=
    .of_answer he hlists hschema (answer_of_values_owner hg h hq hs)
      (answer_of_values_owner hg h' hq hs')
  have hreduced {q : AggRequest} {s s' : Series} (hq : q ∈ g.requests)
      (hlist : q.reduction.isCollectList = false) (hlists : ¬q.owner.ListsRows)
      (hs : q.owner.values raw .groupBy (g.mapping results) = .ok s)
      (hs' : q.owner.values raw' .groupBy (g.mapping results') = .ok s') :
      TypedAlike groups groups' q.owner s s' :=
    .inr ⟨hlists, (dtype_answer hlist (answer_of_values_owner hg h hq hs)).trans
      (dtype_answer hlist (answer_of_values_owner hg h' hq hs')).symm⟩
  -- an operation on results has the type that it declares
  have hoperation {d : DataType} {k : Kind} {cs : List Expr} {rs : List AggRequest} {s s' : Series}
      (hrs : Expr.Collects 0 (.node d k cs) rs) (hk : k.isOperation = true)
      (hf : ∀ g, k ≠ .unaryFunction g)
      (hall : ∀ op, k = .binOp op → rs.all (·.reduction.isCollectList) = false)
      (hs : (Expr.node d k cs).values raw .groupBy (g.mapping results) = .ok s)
      (hs' : (Expr.node d k cs).values raw' .groupBy (g.mapping results') = .ok s') :
      s.dtype = s'.dtype :=
    (Expr.dtype_values_of_operation (find?_mapping_of_operation hg hrs hk hall) hk hf hs).trans
      (Expr.dtype_values_of_operation (find?_mapping_of_operation hg hrs hk hall) hk hf hs').symm
  generalize hdepth : 0 = depth at hrs
  induction hrs generalizing s s' with
  | functionBelow | binOpBelow => cases hdepth
  | col => exact hlist he .col (hmem _ (List.mem_singleton_self _)) hs hs'
  | binOpLists hd hl hr hall =>
    subst hdepth
    exact hlist he (.operation (.binOpLists hd hl hr hall)) (hmem _ (List.mem_singleton_self _))
      hs hs'
  | len =>
    have hno {d : DataType} {cs : List Expr} : ¬(Expr.node d .len cs).ListsRows := by rintro ⟨⟩
    exact hreduced (hmem _ (List.mem_singleton_self _)) rfl hno hs hs'
  | agg _ _ hr _ =>
    have hno {d : DataType} {a : AggFunction} {cs : List Expr} :
        ¬(Expr.node d (.agg a) cs).ListsRows := by rintro ⟨⟩
    exact hreduced (hmem _ (List.mem_singleton_self _)) (AggFunction.isCollectList_request hr) hno
      hs hs'
  | literal =>
    refine .inr ⟨by rintro ⟨⟩, ?_⟩
    exact hoperation .literal rfl (by rintro _ ⟨⟩) (by rintro _ ⟨⟩) hs hs'
  | literalColumn =>
    refine .inr ⟨by rintro ⟨⟩, ?_⟩
    exact hoperation .literalColumn rfl (by rintro _ ⟨⟩) (by rintro _ ⟨⟩) hs hs'
  | cast hc =>
    subst hdepth
    refine .inr ⟨by rintro ⟨⟩, ?_⟩
    exact hoperation (.cast hc) rfl (by rintro _ ⟨⟩) (by rintro _ ⟨⟩) hs hs'
  | binOp hd hl hr hall =>
    subst hdepth
    refine .inr ⟨?_, hoperation (.binOp hd hl hr hall) rfl (by rintro _ ⟨⟩) (fun _ _ ↦ hall) hs hs'⟩
    -- the walk ends in one way only, and here it has not ended with a list
    rintro (_ | hself)
    rw [(Expr.Collects.binOp hd hl hr hall).unique hself] at hall
    cases hall
  | @function depth d k c cs rs hf hd hc ih =>
    subst hdepth
    obtain ⟨hcs, -, -⟩ := he
    have hfind (results : List Series) :
        (g.mapping results).find? (.node d (.unaryFunction k) (c :: cs)) = none :=
      find?_mapping_of_operation hg (.function hf hd hc) rfl (by rintro _ ⟨⟩)
    obtain ⟨t, ht, htype⟩ := Expr.dtype_values_of_function (hfind results) hs
    obtain ⟨t', ht', htype'⟩ := Expr.dtype_values_of_function (hfind results') hs'
    by_cases hkeeps : k.keepsType = true
    · rw [if_pos hkeeps] at htype htype'
      rcases ih (hcs c List.mem_cons_self) hmem ht ht' rfl with ⟨hlists, hsame⟩ | ⟨hlists, hsame⟩
      · rw [← htype, ← htype'] at hsame
        exact .inl ⟨.function hkeeps hlists, hsame⟩
      · refine .inr ⟨?_, by rw [htype, htype', hsame]⟩
        rintro (_ | _ | ⟨_, hlists'⟩)
        exact hlists hlists'
    · refine .inr ⟨?_, by rw [htype, htype', if_neg hkeeps, if_neg hkeeps]⟩
      rintro (_ | _ | ⟨hkeeps', _⟩)
      exact hkeeps hkeeps'

/-- The columns of one expression have one name and are typed alike. -/
theorem typedAlike_aggColumn {a : NamedExpr} (ha : a ∈ g.aggs) (hwf : a.value.WellFormed)
    {c c' : NamedColumn} (hc : aggColumn raw (g.mapping results) groups.length a = .ok c)
    (hc' : aggColumn raw' (g.mapping results') groups'.length a = .ok c') :
    c.name = c'.name ∧ TypedAlike groups groups' a.value c.column.series c'.column.series := by
  obtain ⟨rs, hrs, hmem⟩ := hg.collects a ha
  obtain ⟨hname, s, hs, hseries⟩ := aggColumn_eq_ok hc
  obtain ⟨hname', s', hs', hseries'⟩ := aggColumn_eq_ok hc'
  refine ⟨hname.trans hname'.symm, ?_⟩
  unfold TypedAlike
  rw [Series.dtype_broadcast hseries, Series.dtype_broadcast hseries']
  exact typedAlike_of_collects hg hschema h h' hwf hrs hmem hs hs'

end TwoRuns

/-- No type is that of lists of itself. -/
theorem list_ne_self (t : DataType) : DataType.list t ≠ t := by
  intro h
  have hsize := congrArg sizeOf h
  simp at hsize

section Types

variable {groups groups' : List (List Nat)} {e : Expr} {s s' : Series}

/-- Series that are typed alike have the same type unless they hold rows that are collected from
groups in one run and from none in the other. -/
theorem TypedAlike.dtype_eq_iff (h : TypedAlike groups groups' e s s') :
    s.dtype = s'.dtype ↔ ¬e.ListsRows ∨ (groups = [] ↔ groups' = []) := by
  rcases h with ⟨hlists, t, hs, hs'⟩ | ⟨hlists, hsame⟩
  · rw [hs, hs', or_iff_right (not_not_intro hlists)]
    unfold collectedType
    by_cases hgroups : groups = [] <;> by_cases hgroups' : groups' = [] <;>
      simp [hgroups, hgroups', list_ne_self, (list_ne_self t).symm]
  · exact iff_of_true hsame (.inl hlists)

/-- Then the one run has lists of what the other has. -/
theorem TypedAlike.dtype_eq_list (h : TypedAlike groups groups' e s s') (hlists : e.ListsRows)
    (hgroups : groups ≠ []) (hgroups' : groups' = []) : s.dtype = .list s'.dtype := by
  rcases h with ⟨-, t, hs, hs'⟩ | ⟨hno, -⟩
  · rw [hs, hs', collectedType, if_neg hgroups, collectedType, if_pos hgroups']
  · exact absurd hlists hno

end Types

/-! ### The grouped frames -/

variable {keys aggs : List NamedExpr} {maintainOrder : Bool} {g : GroupBy} {f f' out out' : Frame}

/-- The schema of a grouped frame: the key columns have the names of the keys and the types of their
series. -/
theorem schema_of_columns {groups : List (List Nat)} {ks : List Series}
    {columns : List NamedColumn}
    (h : Frame.ofColumns (List.zipWith (keyColumn groups) keys ks ++ columns) = .ok out) :
    out.schema = List.zipWith (fun k d ↦ (k.name, d)) keys (ks.map Series.dtype) ++
      columns.map NamedColumn.field := by
  have hfield (k : NamedExpr) (s : Series) :
      (keyColumn groups k s).field = (k.name, s.dtype) := by
    simp only [NamedColumn.field, keyColumn, Column.dtype, Series.select_eq]
  rw [Frame.schema, (Frame.ofColumns_eq_ok.1 h).2.2, List.map_append, List.map_zipWith,
    List.zipWith_map_right]
  simp only [hfield]

/-- Keys have one type in two runs. -/
theorem map_dtype_keySeries (hkeys : ∀ k ∈ g.keys, k.value.WellFormed)
    (hschema : f.schema = f'.schema) {ks ks' : List Series} (hks : g.keySeries f = .ok ks)
    (hks' : g.keySeries f' = .ok ks') : ks.map Series.dtype = ks'.map Series.dtype := by
  refine (Outcome.map_eq_map_iff_of_mapM (P := fun _ ↦ True) (keySeries_eq_ok.1 hks)
    (keySeries_eq_ok.1 hks') fun k hk s s' hs hs' ↦ iff_true_intro ?_).2 fun _ _ ↦ trivial
  obtain ⟨c, hc, hs⟩ := Outcome.bind_eq_ok.1 hs
  obtain ⟨c', hc', hs'⟩ := Outcome.bind_eq_ok.1 hs'
  rw [Series.dtype_broadcast hs, Series.dtype_broadcast hs']
  exact Expr.dtype_eq_of_schema_eq hschema (hkeys k hk) hc hc'

/-- **Two runs of a plan on frames of one schema give frames of one schema**, unless an expression
lists rows and just one of the runs has no groups, as it has with keys and without rows. The names
are the same in any case, and where the schemas differ it is by lists of rows in the one that are
plain rows in the other. -/
theorem schema_eq_iff (hplan : plan keys aggs maintainOrder = .ok g)
    (hkeys : ∀ k ∈ keys, k.value.WellFormed) (haggs : ∀ a ∈ aggs, a.value.WellFormed)
    (hschema : f.schema = f'.schema) (hout : g.evaluate f = .ok out)
    (hout' : g.evaluate f' = .ok out') :
    out.schema.map Prod.fst = out'.schema.map Prod.fst ∧
      (out.schema = out'.schema ↔
        (∀ a ∈ aggs, ¬a.value.ListsRows) ∨ keys = [] ∨ (f.rows = 0 ↔ f'.rows = 0)) ∧
      (keys ≠ [] → 0 < f.rows → f'.rows = 0 → ∀ a ∈ aggs, a.value.ListsRows →
        ∃ c c', out.column a.name = .ok c ∧ out'.column a.name = .ok c' ∧
          c.dtype = .list c'.dtype) := by
  obtain ⟨rfl, rfl, -, hg⟩ := planned_of_plan hplan
  obtain ⟨ks, groups, results, raw, columns, hks, hgroups, hresults, -, hcolumns, hframe⟩ :=
    evaluate_eq_ok.1 hout
  obtain ⟨ks', groups', results', raw', columns', hks', hgroups', hresults', -, hcolumns',
    hframe'⟩ := evaluate_eq_ok.1 hout'
  have hnil := groups_eq_nil_iff hks hgroups
  have hnil' := groups_eq_nil_iff hks' hgroups'
  have halike (a : NamedExpr) (ha : a ∈ g.aggs) (c c' : NamedColumn)
      (hc : aggColumn raw (g.mapping results) groups.length a = .ok c)
      (hc' : aggColumn raw' (g.mapping results') groups'.length a = .ok c') :
      c.name = c'.name ∧ TypedAlike groups groups' a.value c.column.series c'.column.series :=
    typedAlike_aggColumn hg hschema hresults hresults' ha (haggs a ha) hc hc'
  -- the keys have the same fields, so only the columns of the expressions can differ
  have hfields := schema_of_columns hframe
  have hfields' := schema_of_columns hframe'
  rw [← map_dtype_keySeries hkeys hschema hks hks'] at hfields'
  refine ⟨?_, ?_, fun hne hpos hzero a ha hlists ↦ ?_⟩
  · have hnames : columns.map (Prod.fst ∘ NamedColumn.field) =
        columns'.map (Prod.fst ∘ NamedColumn.field) :=
      (Outcome.map_eq_map_iff_of_mapM (P := fun _ ↦ True) hcolumns hcolumns'
        fun a ha c c' hc hc' ↦ iff_true_intro (halike a ha c c' hc hc').1).2 fun _ _ ↦ trivial
    rw [hfields, hfields', List.map_append, List.map_append, List.map_map, List.map_map, hnames]
  · have hfield (a : NamedExpr) (ha : a ∈ g.aggs) (c c' : NamedColumn)
        (hc : aggColumn raw (g.mapping results) groups.length a = .ok c)
        (hc' : aggColumn raw' (g.mapping results') groups'.length a = .ok c') :
        c.field = c'.field ↔ ¬a.value.ListsRows ∨ (groups = [] ↔ groups' = []) := by
      obtain ⟨hname, hsame⟩ := halike a ha c c' hc hc'
      rw [← hsame.dtype_eq_iff, NamedColumn.field, NamedColumn.field, Prod.mk.injEq,
        and_iff_right hname]
      rfl
    rw [hfields, hfields', List.append_right_inj,
      Outcome.map_eq_map_iff_of_mapM hcolumns hcolumns' hfield, hnil, hnil', and_congr_right_iff,
      Decidable.imp_iff_not_or, not_not]
    by_cases hsame : g.keys = [] ∨ (f.rows = 0 ↔ f'.rows = 0)
    · exact iff_of_true (fun _ _ ↦ .inr hsame) (.inr hsame)
    · simp only [hsame, or_false]
  · obtain ⟨c, hc, hcolumn⟩ := exists_column_of_mem hcolumns hframe ha
    obtain ⟨c', hc', hcolumn'⟩ := exists_column_of_mem hcolumns' hframe' ha
    have hgroups : groups ≠ [] := fun h ↦ Nat.ne_of_gt hpos (hnil.1 h).2
    have hgroups' : groups' = [] := hnil'.2 ⟨hne, hzero⟩
    exact ⟨c.column, c'.column, hcolumn, hcolumn',
      (halike a ha c c' hc hc').2.dtype_eq_list hlists hgroups hgroups'⟩

/-! ### Amounts listed by customer -/

/-- The frame of orders before the first order. -/
def noOrders : Frame :=
  ⟨[⟨"customer", { series := .empty .int64 }⟩, ⟨"amount", { series := .empty .int64 }⟩], rfl⟩

/-- The amounts of the orders. -/
def amounts : NamedExpr := ⟨"amounts", .node .int64 (.col "amount") []⟩

/-- The amounts of each customer, as they are planned. -/
def amountsListed : GroupBy := ⟨[customer], [amounts], true, [.list amounts.value]⟩

theorem wellFormed_of_mem_amounts {a x : NamedExpr} (ha : a = customer ∨ a = amounts)
    (hx : x ∈ [a]) : x.value.WellFormed := by
  rw [List.mem_singleton.1 hx]
  rcases ha with rfl | rfl <;> exact .node nofun rfl rfl

/-- The column of the amounts is what the request for them gives. -/
theorem mapM_aggColumn_amounts {s : Series} {n : Nat} (hlen : s.length = n) (raw : Frame) :
    [amounts].mapM (aggColumn raw (amountsListed.mapping [s]) n) =
      .ok [⟨"amounts", { series := s }⟩] := by
  have hfind : (amountsListed.mapping [s]).find? amounts.value = some { series := s } :=
    Mapping.find?_insert_self _ _ _
  have hvalue : amounts.value.evaluate raw .groupBy (amountsListed.mapping [s]) =
      .ok { series := s } := by
    show Expr.evaluate raw .groupBy _ (.node _ _ _) = _
    rw [Expr.evaluate, show Mapping.find? _ (.node _ _ _) = _ from hfind]
  refine Outcome.mapM_eq_ok.2 (.cons ?_ .nil)
  rw [aggColumn, hvalue, Outcome.ok_bind, if_pos (show Column.length { series := s } = n from hlen)]
  rfl

/-- With orders, the amounts are lists. -/
theorem exists_evaluate_amounts : ∃ out, amountsListed.evaluate ordersFrame = .ok out ∧
    out.schema = [("customer", .int64), ("amounts", .list .int64)] :=
  ⟨_, evaluate_eq_ok.2 ⟨_, _, _, _, _, rfl, rfl, rfl, rfl, mapM_aggColumn_amounts rfl _, rfl⟩, rfl⟩

/-- Without orders, they are plain numbers, of which there are none. -/
theorem exists_evaluate_noAmounts : ∃ out, amountsListed.evaluate noOrders = .ok out ∧
    out.schema = [("customer", .int64), ("amounts", .int64)] :=
  ⟨_, evaluate_eq_ok.2 ⟨_, _, _, _, _, rfl, rfl, rfl, rfl, mapM_aggColumn_amounts rfl _, rfl⟩, rfl⟩

/-- The columns of the amounts by customer have the same names with and without orders; without them
the amounts are a column of numbers. -/
theorem schema_eq_iff_amounts :
    ∃ out out', amountsListed.evaluate ordersFrame = .ok out ∧
      amountsListed.evaluate noOrders = .ok out' ∧
      out.schema.map Prod.fst = out'.schema.map Prod.fst ∧ out.schema ≠ out'.schema ∧
      ∃ c c', out.column "amounts" = .ok c ∧ out'.column "amounts" = .ok c' ∧
        c.dtype = .list c'.dtype := by
  obtain ⟨out, hout, -⟩ := exists_evaluate_amounts
  obtain ⟨out', hout', -⟩ := exists_evaluate_noAmounts
  obtain ⟨hnames, hiff, hlists⟩ := schema_eq_iff
    (show plan [customer] [amounts] true = .ok amountsListed from rfl)
    (fun _ ↦ wellFormed_of_mem_amounts (.inl rfl)) (fun _ ↦ wellFormed_of_mem_amounts (.inr rfl))
    (show ordersFrame.schema = noOrders.schema from rfl) hout hout'
  refine ⟨out, out', hout, hout', hnames, fun h ↦ ?_,
    hlists (List.cons_ne_nil _ _) (by decide) rfl amounts (List.mem_singleton_self _) .col⟩
  rcases hiff.1 h with hno | hno | hno
  · exact hno amounts (List.mem_singleton_self _) .col
  · cases hno
  · exact absurd (hno.2 rfl) (by decide)

/-- **The schema depends on the rows.** Amounts by customer are lists of numbers if there are
orders, and numbers if there are none. -/
theorem not_schema_eq_amounts :
    ¬∀ (keys aggs : List NamedExpr) (maintainOrder : Bool) (g : GroupBy) (f f' out out' : Frame),
      plan keys aggs maintainOrder = .ok g → (∀ k ∈ keys, k.value.WellFormed) →
      (∀ a ∈ aggs, a.value.WellFormed) → f.schema = f'.schema → g.evaluate f = .ok out →
      g.evaluate f' = .ok out' → out.schema = out'.schema := by
  intro hall
  obtain ⟨out, hout, hschema⟩ := exists_evaluate_amounts
  obtain ⟨out', hout', hschema'⟩ := exists_evaluate_noAmounts
  have heq := hall [customer] [amounts] true amountsListed ordersFrame noOrders out out' rfl
    (fun _ ↦ wellFormed_of_mem_amounts (.inl rfl)) (fun _ ↦ wellFormed_of_mem_amounts (.inr rfl))
    rfl hout hout'
  rw [hschema, hschema'] at heq
  cases heq

end GroupBy

end Tabular
