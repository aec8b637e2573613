import Tabular.Proofs.Grouping.Partition
import Tabular.Proofs.Grouping.Totals
import Tabular.Proofs.Rows.Locality

/-!
# Rows collected into lists

An expression that no reduction encloses is collected from the groups as it is (`Expr.IsUnreduced`):
a column, or a formula over columns and literals whose topmost node is a binary operation. The
search for requests goes down to the columns and comes back with lists on both sides of every
operation, so that in the end one request is left, for the list of the whole
(`Expr.IsUnreduced.collects`). Nodes below it may make the same request on their own account, under
another expression of the grouping, but the whole is looked up first.

A formula that mentions a column has a row for each row of the frame
(`Expr.IsFormula.length_values`), and so its rows can be put into groups without being spread. Since
the groups have every place once, none is lost and none is taken twice (`GroupBy.column_eq_lists`).
-/

namespace Tabular

namespace Expr

/-! ### Formulas -/

/-- An expression put together from columns and literals by binary operations and elementary
functions. -/
inductive IsFormula : Expr → Prop
  | col {d : DataType} {name : String} : IsFormula (node d (.col name) [])
  | literal {d : DataType} {v : Literal} : IsFormula (node d (.literal v) [])
  | math {d : DataType} {op : MathOp} {c : Expr} :
      IsFormula c → IsFormula (node d (.unaryFunction (.math op)) [c])
  | binOp {d : DataType} {op : BinaryOp} {l r : Expr} :
      IsFormula l → IsFormula r → IsFormula (node d (.binOp op) [l, r])

/-- A column stands in the expression. -/
def MentionsColumn (e : Expr) : Prop := ∃ x ∈ e.nodes, x.IsColumn

/-- An expression that is collected as it is: a column, or an operation on formulas that mentions
one. -/
inductive IsUnreduced : Expr → Prop
  | col {d : DataType} {name : String} : IsUnreduced (node d (.col name) [])
  | binOp {d : DataType} {op : BinaryOp} {l r : Expr} : IsFormula l → IsFormula r →
      MentionsColumn (node d (.binOp op) [l, r]) → IsUnreduced (node d (.binOp op) [l, r])

variable {e : Expr} {f : Frame} {s : Series}

/-- A column that stands in an operation stands in one of its operands. -/
theorem MentionsColumn.exists_child {d : DataType} {k : Kind} {cs : List Expr}
    (hk : k.isOperation = true) (h : (node d k cs).MentionsColumn) :
    ∃ c ∈ cs, c.MentionsColumn := by
  obtain ⟨x, hx, hcol⟩ := h
  rcases mem_nodes_node.1 hx with rfl | ⟨c, hc, hx⟩
  · obtain ⟨_, name, _, heq⟩ := hcol
    injection heq with _ heq
    rw [heq] at hk
    cases hk
  · exact ⟨c, hc, x, hx, hcol⟩

/-- A formula is evaluated row by row. -/
theorem IsFormula.rowWise (h : e.IsFormula) : e.RowWise := by
  induction h with
  | col => exact .col
  | literal => exact .literal
  | math _ ih => exact .function rfl ih
  | binOp _ _ ihl ihr => exact .binOp ihl ihr

/-- An operation on operands that ask for nothing but lists asks for the list of itself. -/
theorem Collects.binOp_of_lists {d : DataType} {op : BinaryOp} {l r : Expr}
    {ls rs : List AggRequest} (hl : Collects 0 l ls) (hr : Collects 0 r rs)
    (hlall : ls.all (·.reduction.isCollectList) = true)
    (hrall : rs.all (·.reduction.isCollectList) = true) :
    Collects 0 (node d (.binOp op) [l, r]) [.list (node d (.binOp op) [l, r])] := by
  refine .binOpLists nofun hl hr ?_
  rw [List.all_append, hlall, hrall]
  rfl

/-- **What a formula asks for is lists.** -/
theorem IsFormula.collects (h : e.IsFormula) :
    ∃ rs, Collects 0 e rs ∧ rs.all (·.reduction.isCollectList) = true := by
  induction h with
  | col => exact ⟨_, .col, rfl⟩
  | literal => exact ⟨_, .literal, rfl⟩
  | math _ ih =>
    obtain ⟨rs, hrs, hall⟩ := ih
    exact ⟨rs, .function rfl nofun hrs, hall⟩
  | binOp _ _ ihl ihr =>
    obtain ⟨ls, hl, hlall⟩ := ihl
    obtain ⟨rs, hr, hrall⟩ := ihr
    exact ⟨_, hl.binOp_of_lists hr hlall hrall, rfl⟩

/-- **An expression that is collected as it is asks for one list**, that of itself. -/
theorem IsUnreduced.collects (h : e.IsUnreduced) : Collects 0 e [.list e] := by
  cases h with
  | col => exact .col
  | binOp hl hr =>
    obtain ⟨ls, hls, hlall⟩ := hl.collects
    obtain ⟨rs, hrs, hrall⟩ := hr.collects
    exact hls.binOp_of_lists hrs hlall hrall

/-- **A formula with a column has a row for each row of the frame**: single values are spread by the
operation that joins them with a column. -/
theorem IsFormula.length_values (hpos : 0 < f.rows) (h : e.IsFormula) (hcol : e.MentionsColumn)
    (hs : e.values f .frame .empty = .ok s) : s.length = f.rows := by
  induction h generalizing s with
  | col => exact (values_column ⟨_, _, _, rfl⟩ hs).1
  | literal =>
    -- A literal has no child that could mention a column.
    obtain ⟨c, hc, -⟩ := hcol.exists_child rfl
    cases hc
  | @math d op c hc ih =>
    have hkernel := Series.elementwise_rowKernel (f := .math op) (d := d) rfl
    rw [values_rowFunction rfl (Mapping.find?_empty _)] at hs
    obtain ⟨t, ht, hs⟩ := Outcome.bind_eq_ok.1 hs
    obtain ⟨_, hmem, hcol⟩ := hcol.exists_child rfl
    have hlen : t.length = f.rows := ih (List.mem_singleton.1 hmem ▸ hcol) ht
    have hne : t.rows ≠ [] := List.ne_nil_of_length_pos (Nat.lt_of_lt_of_eq hpos hlen.symm)
    exact (hkernel.length_eq hne hs).trans hlen
  | @binOp d op l r hl hr ihl ihr =>
    rw [values_binOp (Mapping.find?_empty _)] at hs
    obtain ⟨t, ht, hs⟩ := Outcome.bind_eq_ok.1 hs
    obtain ⟨u, hu, hs⟩ := Outcome.bind_eq_ok.1 hs
    -- One of the operands mentions a column and is as long as the frame; the other may be a single
    -- row.
    have hfull : t.length = f.rows ∨ u.length = f.rows := by
      obtain ⟨c, hmem, hchild⟩ := hcol.exists_child rfl
      rcases List.mem_pair.1 hmem with rfl | rfl
      · exact .inl (ihl hchild ht)
      · exact .inr (ihr hchild hu)
    exact (Series.pairwise_combine _ _).length_eq ((hl.rowWise.agrees hpos).fits ht)
      ((hr.rowWise.agrees hpos).fits hu) hpos hfull hs

/-- So does an expression that is collected as it is: its operations have a column below. -/
theorem IsUnreduced.length_values (hpos : 0 < f.rows) (h : e.IsUnreduced)
    (hs : e.values f .frame .empty = .ok s) : s.length = f.rows := by
  cases h with
  | col => exact (values_column ⟨_, _, _, rfl⟩ hs).1
  | binOp hl hr hcol => exact (IsFormula.binOp hl hr).length_values hpos hcol hs

end Expr

namespace GroupBy

variable {f : Frame} {e : Expr} {s : Series} {groups : List (List Nat)}

/-! ### Lists of rows -/

/-- The rows of a series in lists, one for each group. Without groups there is no list to take the
type from. -/
def listed (s : Series) : List (List Nat) → Series
  | [] => .empty s.dtype
  | groups => ⟨.list s.dtype, groups.map fun group ↦ some (rowsAt s.rows group)⟩

/-- Where there is a group, the lists are lists of the type of the rows. -/
theorem listed_eq (hgroups : groups ≠ []) :
    listed s groups = ⟨.list s.dtype, groups.map fun group ↦ some (rowsAt s.rows group)⟩ := by
  obtain ⟨group, groups, rfl⟩ := List.exists_cons_of_ne_nil hgroups
  rfl

/-- A list of rows is answered by collecting them. -/
@[simp]
theorem reduceGroups_list (e : Expr) (s : Series) (groups : List (List Nat)) :
    (AggRequest.list e).reduceGroups (some s) groups = .ok (listed s groups) := by
  have hpart (group : List Nat) : (AggRequest.list e).reduceGroup (some s) group =
      .ok (.single (.list s.dtype) (some (rowsAt s.rows group))) := by
    show (s.select group).reduce .collectList = _
    rw [Series.select_eq]
    rfl
  rw [AggRequest.reduceGroups, funext hpart, mapM_ok, Outcome.ok_bind]
  cases groups with
  | nil => rfl
  | cons group groups =>
    let lists : List (Option (DataType.list s.dtype).Value) :=
      (group :: groups).map fun group ↦ some (rowsAt s.rows group)
    have hstack : AggRequest.stack s.dtype (lists.map (Series.single (.list s.dtype))) =
        ⟨.list s.dtype, lists⟩ := stack_single _ (List.cons_ne_nil _ _)
    rw [List.map_map] at hstack
    exact congrArg Except.ok hstack

/-- An expression that asks for the list of itself, and has a row for each row of the frame, is
answered by its rows. -/
theorem answeredBy_listed (he : Expr.Collects 0 e [.list e])
    (hs : e.values f .frame .empty = .ok s) (hlen : s.length = f.rows) :
    AnsweredBy f e (listed s) := by
  refine ⟨.list e, rfl, he, fun groups ↦ Outcome.bind_eq_ok.2 ⟨some s, ?_, ?_⟩⟩
  · refine Outcome.optionMapM_eq_ok.2 (.some ?_)
    rw [evaluateFully_eq, hs, Outcome.ok_bind, Series.broadcast_self hlen]
  · exact reduceGroups_list e s groups

/-! ### Grouped frames -/

/-- **Rows are collected without loss.** In a grouping by keys of a frame with rows, an expression
that no reduction encloses makes one request. Its column has a list for each group, next to the key
of the group, and the list holds the rows that the expression has over the frame at the places of
the group, in their order. So together the lists hold every row once. -/
theorem column_eq_lists {keys aggs : List NamedExpr} {maintainOrder : Bool} {g : GroupBy}
    {out : Frame} {a : NamedExpr} (hplan : plan keys aggs maintainOrder = .ok g) (hne : keys ≠ [])
    (hpos : 0 < f.rows) (hout : g.evaluate f = .ok out) (ha : a ∈ aggs)
    (hunreduced : a.value.IsUnreduced) :
    a.value.collect 0 = .ok [.list a.value] ∧
    ∃ (d : DataType) (rows : List (Option d.Value)) (ks : List Series) (groups : List (List Nat)),
      a.value.values f .frame .empty = .ok ⟨d, rows⟩ ∧ rows.length = f.rows ∧
      g.keySeries f = .ok ks ∧ GroupBy.groups maintainOrder f ks = .ok groups ∧
      Series.PartitionsRows ks f.rows groups ∧ out.rows = groups.length ∧
      List.zipWith (keyColumn groups) keys ks <+: out.columns ∧
      out.column a.name = .ok { series :=
        ⟨.list d, groups.map fun group ↦ some (rowsAt rows group)⟩ } ∧
      (groups.flatMap (rowsAt rows)).Perm rows := by
  obtain ⟨rfl, rfl, rfl, hg⟩ := planned_of_plan hplan
  have hcollects := hunreduced.collects
  obtain ⟨ks, groups, results, raw, columns, hks, hgroups, hresults, -, hcolumns, hframe⟩ :=
    evaluate_eq_ok.1 hout
  have hgrouping := isGrouping_of_groups hks hne hgroups
  -- the request was answered, and so the expression has rows over the frame
  obtain ⟨⟨d, rows⟩, hs⟩ : ∃ s, a.value.values f .frame .empty = .ok s := by
    obtain ⟨rs, hrs, hmem⟩ := hg.collects a ha
    obtain ⟨t, -, ht⟩ := find?_mapping_owner hg hresults
      (hmem _ (hrs.unique hcollects ▸ List.mem_singleton_self _))
    obtain ⟨values, hvalues, -⟩ := Outcome.bind_eq_ok.1 ht
    obtain ⟨hfull⟩ := Outcome.optionMapM_eq_ok.1 hvalues
    rw [evaluateFully_eq] at hfull
    obtain ⟨s, hs, -⟩ := Outcome.bind_eq_ok.1 hfull
    exact ⟨s, hs⟩
  have hlen : rows.length = f.rows := hunreduced.length_values hpos hs
  obtain ⟨c, hc, hcolumn⟩ := exists_column_of_mem hcolumns hframe ha
  rw [aggColumn_of_answeredBy hg hresults ha (answeredBy_listed hcollects hs hlen)] at hc
  injection hc with hc
  rw [← hc, listed_eq (hgrouping.ne_nil_iff.2 hpos)] at hcolumn
  refine ⟨hcollects.collect_eq, d, rows, ks, groups, hs, hlen, hks, hgroups,
    Series.partitionsRows_of_isGrouping hgrouping, ?_, ?_, hcolumn,
    flatMap_rowsAt_perm (hlen ▸ hgrouping.perm)⟩
  · rw [← Frame.length_eq_rows (Frame.column_eq_ok hcolumn)]
    exact List.length_map _
  · rw [(Frame.ofColumns_eq_ok.1 hframe).2.2]
    exact List.prefix_append _ _

/-- The amounts of the orders with the fee of an order. -/
def withFee : NamedExpr :=
  ⟨"with fee", .node .int64 (.binOp (.arithmetic .add)) [.node .int64 (.col "amount") [],
    .node .int64 (.literal (.int (FixedInt.wrap .int64 2))) []]⟩

theorem isUnreduced_withFee : withFee.value.IsUnreduced :=
  .binOp .col .literal ⟨_, Expr.mem_nodes_node.2 (.inr ⟨_, List.mem_cons_self,
    Expr.mem_nodes_self _⟩), _, _, _, rfl⟩

/-- The amounts with fee of each customer. -/
theorem column_eq_lists_withFee : ∃ g out, plan [customer] [withFee] true = .ok g ∧
    0 < ordersFrame.rows ∧ g.evaluate ordersFrame = .ok out ∧ withFee.value.IsUnreduced ∧
    withFee.value.collect 0 = .ok [.list withFee.value] ∧
    ∃ (d : DataType) (rows : List (Option d.Value)) (ks : List Series) (groups : List (List Nat)),
      withFee.value.values ordersFrame .frame .empty = .ok ⟨d, rows⟩ ∧
      rows.length = ordersFrame.rows ∧ g.keySeries ordersFrame = .ok ks ∧
      GroupBy.groups true ordersFrame ks = .ok groups ∧
      Series.PartitionsRows ks ordersFrame.rows groups ∧ out.rows = groups.length ∧
      List.zipWith (keyColumn groups) [customer] ks <+: out.columns ∧
      out.column withFee.name = .ok { series :=
        ⟨.list d, groups.map fun group ↦ some (rowsAt rows group)⟩ } ∧
      (groups.flatMap (rowsAt rows)).Perm rows := by
  have hpos : 0 < ordersFrame.rows := by decide
  obtain ⟨s, hs⟩ : ∃ s, withFee.value.values ordersFrame .frame .empty = .ok s := ⟨_, rfl⟩
  have hlisted : AnsweredBy ordersFrame withFee.value (listed s) :=
    answeredBy_listed isUnreduced_withFee.collects hs (isUnreduced_withFee.length_values hpos hs)
  obtain ⟨g, out, -, -, hplan, hout, -⟩ := exists_evaluate_of_answers (f := ordersFrame) true
    (List.cons_ne_nil customer []) (List.forall_mem_singleton.2 ⟨_, rfl, .inl rfl⟩) (by decide)
    (List.forall_mem_singleton.2 ⟨_, hlisted⟩)
  exact ⟨g, out, hplan, hpos, hout, isUnreduced_withFee,
    column_eq_lists hplan (List.cons_ne_nil _ _) hpos hout List.mem_cons_self isUnreduced_withFee⟩

end GroupBy

end Tabular
