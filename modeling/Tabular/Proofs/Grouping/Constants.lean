import Tabular.Proofs.Grouping.Completeness

/-!
# Constants under a grouping

An expression over literals alone (`Expr.IsConstant`) is the same single value over every frame. A
grouping that leaves it to be evaluated over the results of the requests gives this value to every
group, and so it does as long as the expression asks for nothing (`Expr.StaysConstant` says what
this means in all).

Literals ask for nothing, and casts and elementary functions ask for what their child does. But a
binary operation all of whose requests are for lists asks for the list of itself, and this rule does
not except operations without any request. So the sum of two literals is collected into lists, one
value for every row of the group, and beside a reduction it adds a request that the reduction alone
does not make.

There is nothing between these two cases (`Expr.IsConstant.collects`), and therefore the constants
that stay constant are those without binary operations (`Expr.staysConstant_iff`).
-/

namespace Tabular

namespace Expr

/-- An expression put together from literals by binary operations, casts and elementary
functions. -/
inductive IsConstant : Expr → Prop
  | literal {d : DataType} {v : Literal} : IsConstant (node d (.literal v) [])
  | cast {d : DataType} {c : Expr} : IsConstant c → IsConstant (node d .cast [c])
  | math {d : DataType} {op : MathOp} {c : Expr} :
      IsConstant c → IsConstant (node d (.unaryFunction (.math op)) [c])
  | binOp {d : DataType} {op : BinaryOp} {l r : Expr} :
      IsConstant l → IsConstant r → IsConstant (node d (.binOp op) [l, r])

/-- No node of the expression is a binary operation. -/
def OperatorFree (e : Expr) : Prop := ∀ x ∈ e.nodes, ∀ op, x.kind ≠ .binOp op

variable {c : Expr} {d : DataType} {fr : Frame} {s : Series}

/-- A node without operations is none itself and has children without. -/
theorem operatorFree_node {k : Kind} {cs : List Expr} : (node d k cs).OperatorFree ↔
    (∀ op, k ≠ .binOp op) ∧ ∀ c ∈ cs, c.OperatorFree := by
  simp only [OperatorFree, mem_nodes_node, forall_eq_or_imp, forall_exists_index, and_imp]
  exact and_congr_right fun _ ↦ ⟨fun h c hc x hx ↦ h x c hc hx, fun h x c hc hx ↦ h c hc x hx⟩

/-- What has no operation has none below. -/
theorem OperatorFree.child {k : Kind} {cs : List Expr} (h : (node d k cs).OperatorFree)
    (hc : c ∈ cs) : c.OperatorFree :=
  (operatorFree_node.1 h).2 c hc

/-- A constant without binary operations is put together row by row from single values. -/
theorem IsConstant.rowTree (h : c.IsConstant) (hfree : c.OperatorFree) :
    RowTree (fun _ ↦ False) false c := by
  induction h with
  | literal => exact .literal
  | cast _ ih => exact .cast (ih (hfree.child List.mem_cons_self))
  | math _ ih => exact .function rfl (ih (hfree.child List.mem_cons_self))
  | binOp => exact absurd rfl (hfree _ (mem_nodes_self _) _)

/-- **What a constant asks for**: nothing if no operation stands in it, and otherwise the list of
the topmost one. -/
theorem IsConstant.collects (h : c.IsConstant) :
    c.OperatorFree ∧ Collects 0 c [] ∨ ¬c.OperatorFree ∧ ∃ x, Collects 0 c [.list x] := by
  induction h with
  | literal => exact .inl ⟨operatorFree_node.2 ⟨nofun, nofun⟩, .literal⟩
  | cast _ ih =>
    rcases ih with ⟨hfree, hc⟩ | ⟨hfree, x, hc⟩
    · exact .inl ⟨operatorFree_node.2 ⟨nofun, List.forall_mem_singleton.2 hfree⟩, .cast hc⟩
    · exact .inr ⟨fun h ↦ hfree (h.child List.mem_cons_self), x, .cast hc⟩
  | math _ ih =>
    rcases ih with ⟨hfree, hc⟩ | ⟨hfree, x, hc⟩
    · exact .inl ⟨operatorFree_node.2 ⟨nofun, List.forall_mem_singleton.2 hfree⟩,
        .function rfl nofun hc⟩
    · exact .inr ⟨fun h ↦ hfree (h.child List.mem_cons_self), x, .function rfl nofun hc⟩
  | @binOp d op l r _ _ ihl ihr =>
    -- whatever the operands ask for, no request of theirs is for anything but a list
    have hlists {e : Expr} (h : e.OperatorFree ∧ Collects 0 e [] ∨
        ¬e.OperatorFree ∧ ∃ x, Collects 0 e [.list x]) :
        ∃ rs, Collects 0 e rs ∧ rs.all (·.reduction.isCollectList) = true := by
      rcases h with ⟨-, h⟩ | ⟨-, x, h⟩
      · exact ⟨[], h, rfl⟩
      · exact ⟨[.list x], h, rfl⟩
    obtain ⟨ls, hl, hlall⟩ := hlists ihl
    obtain ⟨rs, hr, hrall⟩ := hlists ihr
    refine .inr ⟨fun h ↦ h _ (mem_nodes_self _) op rfl, _, .binOpLists nofun hl hr ?_⟩
    rw [List.all_append, hlall, hrall]
    rfl

/-- A constant has a single row. -/
theorem IsConstant.length_values (h : c.IsConstant) (hs : c.values fr .frame .empty = .ok s) :
    s.length = 1 := by
  induction h generalizing s with
  | literal =>
    rw [values_literal (Mapping.find?_empty _)] at hs
    exact Literal.length_toSeries hs
  | cast _ ih =>
    rw [values_cast (Mapping.find?_empty _)] at hs
    obtain ⟨s₀, hs₀, hs⟩ := Outcome.bind_eq_ok.1 hs
    exact (Series.elementwise_cast _).length_eq_one (ih hs₀) hs
  | @math d op c _ ih =>
    have hkernel := Series.elementwise_rowKernel (f := .math op) (d := d) rfl
    rw [values_rowFunction rfl (Mapping.find?_empty _)] at hs
    obtain ⟨s₀, hs₀, hs⟩ := Outcome.bind_eq_ok.1 hs
    exact hkernel.length_eq_one (ih hs₀) hs
  | binOp _ _ ihl ihr =>
    rw [values_binOp (Mapping.find?_empty _)] at hs
    obtain ⟨s₁, hs₁, hs⟩ := Outcome.bind_eq_ok.1 hs
    obtain ⟨s₂, hs₂, hs⟩ := Outcome.bind_eq_ok.1 hs
    have hfits (t : Series) (ht : t.length = 1) : Fits t.rows 1 := .inl ht
    exact (Series.pairwise_combine _ _).length_eq (hfits _ (ihl hs₁)) (hfits _ (ihr hs₂))
      Nat.one_pos (.inl (ihl hs₁)) hs

/-- A grouping treats the expression, whose value over every frame is `s`, as a single value. -/
structure StaysConstant (c : Expr) (s : Series) : Prop where
  /-- It is a single row. -/
  single : s.length = 1
  /-- It asks for nothing. -/
  requests : c.collect 0 = .ok []
  /-- Beside a reduction or the number of rows it adds nothing to what these ask for. -/
  beside : ∀ (a : Expr) (d : DataType) (op : BinaryOp), (a.kind = .len ∨ ∃ f, a.kind = .agg f) →
    (node d (.binOp op) [a, c]).collect 0 = a.collect 0 ∧
      (node d (.binOp op) [c, a]).collect 0 = a.collect 0
  /-- Every grouping that has it as one of its expressions gives its value to every group. -/
  column : ∀ (keys aggs : List NamedExpr) (maintainOrder : Bool) (g : GroupBy) (f out : Frame)
    (name : String), GroupBy.plan keys aggs maintainOrder = .ok g → g.evaluate f = .ok out →
    ⟨name, c⟩ ∈ aggs → ∃ col, out.column name = .ok col ∧ s.broadcast out.rows = .ok col.series
  /-- A grouping by keys that can be evaluated has it as its only expression. -/
  alone : ∀ (keys : List NamedExpr) (maintainOrder : Bool) (f : Frame) (name : String),
    0 < f.rows → ((keys ++ [(⟨name, c⟩ : NamedExpr)]).map NamedExpr.name).Nodup →
    (∀ k ∈ keys, ∃ t, k.value.values f .frame .empty = .ok t ∧ Fits t.rows f.rows) →
    ∃ g out, GroupBy.plan keys [⟨name, c⟩] maintainOrder = .ok g ∧ g.evaluate f = .ok out
  /-- A grouping that succeeds without it succeeds with it, and nothing else changes. -/
  joins : ∀ (keys aggs : List NamedExpr) (maintainOrder : Bool) (g : GroupBy) (f out : Frame)
    (name : String), GroupBy.plan keys aggs maintainOrder = .ok g → g.evaluate f = .ok out →
    ((keys ++ aggs ++ [(⟨name, c⟩ : NamedExpr)]).map NamedExpr.name).Nodup →
    ∃ g' out' col, GroupBy.plan keys (aggs ++ [⟨name, c⟩]) maintainOrder = .ok g' ∧
      g'.evaluate f = .ok out' ∧ out'.columns = out.columns ++ [⟨name, col⟩]

/-- Reductions and the number of rows ask for more than lists. -/
theorem Collects.all_isCollectList_eq_false {a : Expr} {rs : List AggRequest}
    (ha : a.kind = .len ∨ ∃ f, a.kind = .agg f) (h : Collects 0 a rs) :
    rs.all (·.reduction.isCollectList) = false := by
  cases h with
  | len => rfl
  | agg _ _ hr _ =>
    rw [List.all_cons, AggFunction.isCollectList_request hr]
    rfl
  | _ => rcases ha with ha | ⟨_, ha⟩ <;> cases ha

/-- An operation on a reduction and an expression that asks for nothing asks for what the reduction
does. -/
theorem collect_binOp_of_nil {a : Expr} (hc : c.collect 0 = .ok [])
    (ha : a.kind = .len ∨ ∃ f, a.kind = .agg f) (d : DataType) (op : BinaryOp) :
    (node d (.binOp op) [a, c]).collect 0 = a.collect 0 ∧
      (node d (.binOp op) [c, a]).collect 0 = a.collect 0 := by
  cases hrs : a.collect 0 with
  | error e =>
    rw [collect_node, collect_node]
    simp only [collectNode, kind, List.map_cons, List.getElem?_cons_zero, List.getElem?_cons_succ,
      Option.getD_some, hrs, hc]
    exact ⟨rfl, rfl⟩
  | ok rs =>
    have hcollects := Collects.of_collect hrs
    have hnil := Collects.of_collect hc
    have hall := hcollects.all_isCollectList_eq_false ha
    have hright : Collects 0 (node d (.binOp op) [a, c]) (rs ++ []) :=
      .binOp Nat.zero_ne_one hcollects hnil (by rwa [List.append_nil])
    have hleft : Collects 0 (node d (.binOp op) [c, a]) ([] ++ rs) :=
      .binOp Nat.zero_ne_one hnil hcollects hall
    rw [hright.collect_eq, hleft.collect_eq, List.append_nil, List.nil_append]
    exact ⟨rfl, rfl⟩

end Expr

namespace GroupBy

variable {keys aggs : List NamedExpr} {maintainOrder : Bool} {g : GroupBy} {f raw out fr : Frame}
  {a : NamedExpr} {s : Series} {results : List Series}

/-- Over the results of a grouping, a tree of single values has its value. -/
theorem values_constant (hg : g.Planned) (htree : Expr.RowTree (fun _ ↦ False) false a.value)
    (hs : a.value.values fr .frame .empty = .ok s) :
    a.value.values raw .groupBy (g.mapping results) = .ok s :=
  (htree.values_const (missesOperations_mapping hg fun _ _ hx ↦ hx.elim)
    (Mapping.missesOperations_empty _)).trans hs

/-- Every group has the value. -/
theorem column_constant (hplan : plan keys aggs maintainOrder = .ok g)
    (hout : g.evaluate f = .ok out) (ha : a ∈ aggs)
    (htree : Expr.RowTree (fun _ ↦ False) false a.value)
    (hs : a.value.values fr .frame .empty = .ok s) :
    ∃ col, out.column a.name = .ok col ∧ s.broadcast out.rows = .ok col.series := by
  obtain ⟨rfl, rfl, -, hg⟩ := planned_of_plan hplan
  obtain ⟨ks, groups, results, raw, columns, -, -, -, -, hcolumns, hframe⟩ := evaluate_eq_ok.1 hout
  obtain ⟨col, hmem, hcol⟩ := Outcome.exists_of_mem hcolumns ha
  obtain ⟨hname, t, ht, hbroadcast⟩ := aggColumn_eq_ok hcol
  rw [values_constant hg htree hs] at ht
  injection ht with ht
  subst ht
  have hmem := List.mem_append_right (List.zipWith (keyColumn groups) g.keys ks) hmem
  refine ⟨col.column, hname ▸ column_of_evaluate hframe hmem, ?_⟩
  have hrows : out.rows = groups.length := by
    rw [← Frame.length_eq_rows ((Frame.ofColumns_eq_ok.1 hframe).2.2 ▸ hmem)]
    exact Series.length_broadcast hbroadcast
  rw [hrows]
  exact hbroadcast

/-- An expression that asks for nothing adds nothing to a plan but itself. -/
theorem plan_append (hplan : plan keys aggs maintainOrder = .ok g)
    (ha : a.value.collect 0 = .ok []) :
    plan keys (aggs ++ [a]) maintainOrder = .ok { g with aggs := aggs ++ [a] } := by
  obtain ⟨requests, hrequests, h⟩ := Outcome.bind_eq_ok.1 hplan
  injection h with h
  subst h
  have hmap : (aggs ++ [a]).mapM (fun a ↦ a.value.collect 0) = .ok (requests ++ [[]]) := by
    rw [List.mapM_append, hrequests, List.mapM_cons, ha]
    rfl
  rw [plan, hmap, Outcome.ok_bind, List.flatten_concat, List.append_nil]

/-- A grouping by keys that can be evaluated has a constant as its only expression. -/
theorem exists_evaluate_constant (ha : a.value.collect 0 = .ok [])
    (htree : Expr.RowTree (fun _ ↦ False) false a.value)
    (hs : a.value.values fr .frame .empty = .ok s) (hrows : 0 < f.rows)
    (hnames : ((keys ++ [a]).map NamedExpr.name).Nodup)
    (hkeys : ∀ k ∈ keys, ∃ t, k.value.values f .frame .empty = .ok t ∧ Fits t.rows f.rows) :
    ∃ g out, plan keys [a] maintainOrder = .ok g ∧ g.evaluate f = .ok out := by
  have hplan : plan keys [] maintainOrder = .ok ⟨keys, [], maintainOrder, []⟩ := rfl
  have hplan := plan_append hplan ha
  obtain ⟨-, -, -, hg⟩ := planned_of_plan hplan
  have hvalues (f' : Frame) : a.value.values f' .frame .empty = .ok s :=
    (htree.values_const (Mapping.missesOperations_empty _)
      (Mapping.missesOperations_empty _)).trans hs
  obtain ⟨ks, hks⟩ := exists_keySeries (g := ⟨keys, [a], maintainOrder, []⟩) hkeys
  obtain ⟨groups, hgroups, hhas, hreps⟩ := exists_groups hks (.inr hrows)
  obtain ⟨out, hout⟩ := exists_evaluate hg hks hgroups hhas hreps hnames
    (fun b hb ↦ List.mem_singleton.1 hb ▸ ⟨.constant htree, s, hvalues f⟩)
    fun b hb _ group _ ↦ List.mem_singleton.1 hb ▸ ⟨s, hvalues _⟩
  exact ⟨_, out, hplan, hout⟩

/-- A grouping that succeeds without a constant succeeds with it, and nothing else changes. -/
theorem evaluate_append_constant (hplan : plan keys aggs maintainOrder = .ok g)
    (hout : g.evaluate f = .ok out) (ha : a.value.collect 0 = .ok [])
    (htree : Expr.RowTree (fun _ ↦ False) false a.value)
    (hs : a.value.values fr .frame .empty = .ok s)
    (hnames : ((keys ++ aggs ++ [a]).map NamedExpr.name).Nodup) :
    ∃ g' out' col, plan keys (aggs ++ [a]) maintainOrder = .ok g' ∧
      g'.evaluate f = .ok out' ∧ out'.columns = out.columns ++ [⟨a.name, col⟩] := by
  have hplan' := plan_append hplan ha
  obtain ⟨rfl, rfl, rfl, hg⟩ := planned_of_plan hplan
  obtain ⟨ks, groups, results, raw, columns, hks, hgroups, hresults, hraw, hcolumns, hframe⟩ :=
    evaluate_eq_ok.1 hout
  -- keys, groups and results are what they were, and so are the columns over the results
  obtain ⟨col, hcol⟩ : ∃ col, aggColumn raw (g.mapping results) groups.length a = .ok col :=
    exists_aggColumn (values_constant hg htree hs)
      (.inr (htree.length_const (Mapping.missesOperations_empty _) hs))
  have hcolumns' : (g.aggs ++ [a]).mapM (aggColumn raw (g.mapping results) groups.length) =
      .ok (columns ++ [col]) := by
    rw [List.mapM_append, hcolumns, List.mapM_cons, hcol]
    rfl
  have hreps : g.keys = [] ∨ ∀ group ∈ groups, group ≠ [] := by
    by_cases hkeys : g.keys = []
    · exact .inl hkeys
    · exact .inr (isGrouping_of_groups hks hkeys hgroups).ne_nil
  obtain ⟨out', hframe'⟩ := exists_groupedFrame (g := { g with aggs := g.aggs ++ [a] }) hks hreps
    hcolumns' (by rwa [← List.append_assoc])
  refine ⟨_, out', col.column, hplan', evaluate_eq_ok.2 ⟨ks, groups, results, raw, _, hks, hgroups,
    hresults, hraw, hcolumns', hframe'⟩, ?_⟩
  rw [(Frame.ofColumns_eq_ok.1 hframe').2.2, (Frame.ofColumns_eq_ok.1 hframe).2.2,
    List.append_assoc, ← (aggColumn_eq_ok hcol).1]

end GroupBy

namespace Expr

variable {c : Expr} {f : Frame} {s : Series}

/-- **Which constants stay constant.** An expression over literals that can be evaluated, and so has
one value over every frame, is treated as this single value by groupings exactly if no node of it is
a binary operation. -/
theorem staysConstant_iff (h : c.IsConstant) (hs : c.values f .frame .empty = .ok s) :
    c.StaysConstant s ↔ c.OperatorFree := by
  rcases h.collects with ⟨hfree, hnil⟩ | ⟨hfree, x, hlist⟩
  · refine ⟨fun _ ↦ hfree, fun _ ↦ ?_⟩
    have htree := h.rowTree hfree
    have hc := hnil.collect_eq
    exact {
      single := h.length_values hs
      requests := hc
      beside := fun _ d op ha ↦ collect_binOp_of_nil hc ha d op
      column := fun _ _ _ _ _ _ name hplan hout hmem ↦
        GroupBy.column_constant (a := ⟨name, c⟩) hplan hout hmem htree hs
      alone := fun _ _ _ name hrows hnames hkeys ↦
        GroupBy.exists_evaluate_constant (a := ⟨name, c⟩) hc htree hs hrows hnames hkeys
      joins := fun _ _ _ _ _ _ name hplan hout hnames ↦
        GroupBy.evaluate_append_constant (a := ⟨name, c⟩) hplan hout hc htree hs hnames }
  · refine ⟨fun hstays ↦ ?_, fun h ↦ absurd h hfree⟩
    have hc := hlist.collect_eq
    rw [hstays.requests] at hc
    cases hc

/-- The number 3. -/
def three : Expr := node .int64 (.literal (.int (FixedInt.wrap .int64 3))) []

/-- The number 3, as a number with a fraction. -/
def fractional : Expr := node .float64 .cast [three]

/-- Twice the number 3. -/
def doubled : Expr := node .int64 (.binOp (.arithmetic .add)) [three, three]

/-- A cast of a literal stays constant, and a sum of two does not. -/
theorem staysConstant_iff_fractional :
    (∃ s, fractional.values GroupBy.ordersFrame .frame .empty = .ok s ∧
      fractional.StaysConstant s) ∧
    ∃ s, doubled.values GroupBy.ordersFrame .frame .empty = .ok s ∧ ¬doubled.StaysConstant s := by
  refine ⟨?_, ?_⟩
  · obtain ⟨s, hs⟩ : ∃ s, fractional.values GroupBy.ordersFrame .frame .empty = .ok s := ⟨_, rfl⟩
    have hfree : fractional.OperatorFree := operatorFree_node.2
      ⟨nofun, List.forall_mem_singleton.2 (operatorFree_node.2 ⟨nofun, nofun⟩)⟩
    exact ⟨s, hs, (staysConstant_iff (.cast .literal) hs).2 hfree⟩
  · obtain ⟨s, hs⟩ : ∃ s, doubled.values GroupBy.ordersFrame .frame .empty = .ok s := ⟨_, rfl⟩
    refine ⟨s, hs, fun hstays ↦ ?_⟩
    exact (staysConstant_iff (.binOp .literal .literal) hs).1 hstays _ (mem_nodes_self _) _ rfl

/-- A sum of literals is a constant with a request: the list of itself. -/
theorem not_collect_eq_nil_of_isConstant :
    ¬∀ (c : Expr) (f : Frame) (s : Series), c.WellFormed → c.IsConstant →
      c.values f .frame .empty = .ok s → c.collect 0 = .ok [] := by
  intro h
  obtain ⟨s, hs⟩ : ∃ s, doubled.values GroupBy.ordersFrame .frame .empty = .ok s := ⟨_, rfl⟩
  have hnil := h doubled GroupBy.ordersFrame s (by decide) (.binOp .literal .literal) hs
  have hlist : doubled.collect 0 = .ok [.list doubled] := rfl
  rw [hlist] at hnil
  cases hnil

end Expr

end Tabular
