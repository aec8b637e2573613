import Tabular.Proofs.Grouping.Evaluation

/-!
# A grouping agrees with its groups

A grouped frame can be had in two ways. A grouping computes it from requests and their results. Or
each expression is evaluated over the frame of the rows of each group, and the values are put one
below the other. For expressions over reductions of columns (`Expr.IsColumnReduction`) both ways
agree (`GroupBy.column_eq_values_of_group`): whenever the grouping succeeds, each expression can be
evaluated over the rows of each group, and its column holds what comes out.

The work is done below. That an expression over the results agrees with itself over the rows of
every group (`GroupBy.agrees_tree`) needs its leaves to be reductions whose input is evaluated row
by row, which `Expr.RowTree.reduces` reads off the grammar. It needs a group to reduce, too; without
one there is no row to agree on. What is added here are the columns of the keys and the frame around
them all.
-/

namespace Tabular

/-! ### Reductions of columns -/

/-- The expression is the number of rows, or a reduction of operations row by row on columns. The
operation on top is no cast. -/
inductive Expr.IsColumnReduction : Expr → Prop
  | len {d : DataType} {cs : List Expr} : IsColumnReduction (.node d .len cs)
  | agg {d : DataType} {g : AggFunction} {c : Expr} {cs : List Expr} :
      c.kind ≠ .cast → Expr.RowTree Expr.IsColumn true c →
        IsColumnReduction (.node d (.agg g) (c :: cs))

namespace Expr

variable {f : Frame} {e : Expr} {varying : Bool}

/-- Below a reduction stands no number of rows: trees over columns have none. -/
theorem RowTree.kind_ne_len (h : RowTree IsColumn varying e) : e.kind ≠ .len := by
  cases h with
  | base hc =>
    obtain ⟨d, name, cs, rfl⟩ := hc
    exact nofun
  | _ => exact nofun

/-- A frame of the declared types has its rows reduced. -/
theorem IsColumnReduction.reduces (hpos : 0 < f.rows) (h : IsColumnReduction e)
    (hkeep : e.KeepsTypes) (hdeclares : f.Declares e) : f.Reduces e := by
  cases h with
  | len => exact .len
  | agg hcast hc =>
    refine .agg hcast hc.kind_ne_len (hc.rowByRow hpos) fun _ s hs ↦ ?_
    rw [hc.dtype_values (hkeep.child List.mem_cons_self) (hdeclares.child List.mem_cons_self) hs]

/-- A tree over reductions of columns is one over reductions of the rows of the frame. The induction
is over the tree, and columns keep their declared types on the way down. -/
theorem RowTree.reduces (hpos : 0 < f.rows) (h : RowTree IsColumnReduction varying e)
    (hkeep : e.KeepsTypes) (hdeclares : f.Declares e) : RowTree f.Reduces varying e := by
  have hchild {d : DataType} {k : Kind} {cs : List Expr} (hkeep : (node d k cs).KeepsTypes)
      (hdeclares : f.Declares (node d k cs)) {c : Expr} (hc : c ∈ cs) :
      c.KeepsTypes ∧ f.Declares c :=
    ⟨hkeep.child hc, hdeclares.child hc⟩
  induction h with
  | base hx => exact .base (hx.reduces hpos hkeep hdeclares)
  | literal => exact .literal
  | literalColumn hlen => exact .literalColumn hlen
  | cast _ ih =>
    obtain ⟨hk, hd⟩ := hchild hkeep hdeclares List.mem_cons_self
    exact .cast (ih hk hd)
  | function hkernel _ ih =>
    obtain ⟨hk, hd⟩ := hchild hkeep hdeclares List.mem_cons_self
    exact .function hkernel (ih hk hd)
  | fillNull _ hfiller ih _ =>
    obtain ⟨hk, hd⟩ := hchild hkeep hdeclares List.mem_cons_self
    exact .fillNull (ih hk hd) (hfiller.const_base _)
  | binOp _ _ hor ihl ihr =>
    obtain ⟨hkl, hdl⟩ := hchild hkeep hdeclares List.mem_cons_self
    obtain ⟨hkr, hdr⟩ := hchild hkeep hdeclares (List.mem_cons_of_mem _ List.mem_cons_self)
    exact .binOp (ihl hkl hdl) (ihr hkr hdr) hor

end Expr

namespace GroupBy

variable {keys aggs : List NamedExpr} {maintainOrder : Bool} {g : GroupBy} {f out : Frame}

/-- **Split-apply-combine.** Let the expressions of a grouping by keys be put together row by row
from the number of rows and from reductions of columns. If the grouping succeeds, its rows stand for
the groups of rows with equal keys. Each key column holds the key of each group, and the column of
each expression holds its value over the frame of the rows of each group. -/
theorem column_eq_values_of_group (hplan : plan keys aggs maintainOrder = .ok g) (hkeys : keys ≠ [])
    (haggs : ∀ a ∈ aggs, ∃ varying, Expr.RowTree Expr.IsColumnReduction varying a.value)
    (hkeep : ∀ a ∈ aggs, a.value.KeepsTypes) (hdeclares : ∀ a ∈ aggs, f.Declares a.value)
    (hout : g.evaluate f = .ok out) :
    ∃ ks groups, g.keySeries f = .ok ks ∧ GroupBy.groups maintainOrder f ks = .ok groups ∧
      IsGrouping (Series.sameRows ks) f.rows groups ∧
      (∀ p ∈ keys.zip ks, ∃ c, out.column p.1.name = .ok c ∧ c.length = groups.length ∧
        ∀ i (hi : i < groups.length), ∀ j ∈ groups[i], c.series.select [i] = p.2.select [j]) ∧
      ∀ a ∈ aggs, ∃ c, out.column a.name = .ok c ∧ c.length = groups.length ∧
        ∀ i (hi : i < groups.length),
          a.value.values (f.select groups[i]) .frame .empty = .ok (c.series.select [i]) := by
  obtain ⟨rfl, rfl, rfl, hg⟩ := planned_of_plan hplan
  obtain ⟨ks, groups, results, raw, columns, hks, hgroups, hresults, -, hcolumns, hframe⟩ :=
    evaluate_eq_ok.1 hout
  -- the groups of the evaluation are those of the keys
  obtain ⟨groups', hgroups', hgrouping⟩ := groups_of_keys hks hkeys
  obtain rfl : groups = groups' := by
    rw [hgroups] at hgroups'
    injection hgroups'
  rw [zipWith_keyColumn] at hframe
  refine ⟨ks, groups, hks, hgroups, hgrouping, fun p hp ↦ ?_, fun a ha ↦ ?_⟩
  · have hmem := List.mem_map_of_mem (f := fun p ↦ keyColumn groups p.1 p.2) hp
    exact ⟨_, column_of_evaluate hframe (List.mem_append_left _ hmem),
      length_keyColumn hgrouping.ne_nil p.1 p.2,
      fun i hi j hj ↦ select_keyColumn hgrouping (List.of_mem_zip hp).2 p.1 hi hj⟩
  · obtain ⟨c, hc, hcolumn⟩ := Outcome.exists_of_mem hcolumns ha
    obtain ⟨hname, s, hs, hbroadcast⟩ := aggColumn_eq_ok hcolumn
    refine ⟨c.column, hname ▸ column_of_evaluate hframe (List.mem_append_right _ hc),
      Series.length_broadcast hbroadcast, fun i hi ↦ ?_⟩
    -- with a group the frame has rows, and its reductions can be taken apart
    have hne : groups ≠ [] := List.ne_nil_of_length_pos (Nat.zero_lt_of_lt hi)
    obtain ⟨varying, htree⟩ := haggs a ha
    have hreduces := htree.reduces (hgrouping.ne_nil_iff.1 hne) (hkeep a ha) (hdeclares a ha)
    have hpick := (agrees_tree hg hresults (hgrouping.hasGroups hne) ha hreduces).pick hs i hi
    rw [List.getD_eq_getElem _ _ hi] at hpick
    rw [hpick, Series.select_broadcast hbroadcast hi]

/-! ### Orders by customer -/

/-- The amounts of three orders of two customers. -/
def ordersFrame : Frame :=
  ⟨[⟨"customer", { series := ⟨.int64, [1, 2, 1].map fun i ↦ some (FixedInt.wrap .int64 i)⟩ }⟩,
    ⟨"amount", { series := ⟨.int64, [3, 4, 5].map fun i ↦ some (FixedInt.wrap .int64 i)⟩ }⟩], rfl⟩

/-- The key of the orders. -/
def customer : NamedExpr := ⟨"customer", .node .int64 (.col "customer") []⟩

/-- The sum of the amounts. -/
def total : NamedExpr := ⟨"total", .node .int64 (.agg .sum) [.node .int64 (.col "amount") []]⟩

/-- The total for each customer, as it is planned. -/
def totals : GroupBy :=
  ⟨[customer], [total], true, [⟨some (.node .int64 (.col "amount") []), .sum, total.value⟩]⟩

theorem keepsTypes_total : total.value.KeepsTypes :=
  .node nofun (List.forall_mem_singleton.2 (.node nofun nofun))

theorem declares_total : ordersFrame.Declares total.value := by
  have hamount : ordersFrame.Declares (.node .int64 (.col "amount") []) := .col rfl rfl
  exact .node nofun (List.forall_mem_singleton.2 hamount)

theorem isColumnReduction_total : Expr.IsColumnReduction total.value :=
  .agg nofun (.base ⟨_, _, _, rfl⟩)

/-- The totals can be evaluated over the orders. -/
theorem exists_evaluate_totals : ∃ out, totals.evaluate ordersFrame = .ok out := by
  let sums : Series := ⟨.int64, [8, 4].map fun i ↦ some (FixedInt.wrap .int64 i)⟩
  -- only the look-up of the request's owner does not evaluate by itself
  have hfind : (totals.mapping [sums]).find? total.value = some { series := sums } :=
    Mapping.find?_insert_self _ _ _
  have hcolumn (raw : Frame) : [total].mapM (aggColumn raw (totals.mapping [sums]) 2) =
      .ok [⟨"total", { series := sums }⟩] := by
    refine Outcome.mapM_eq_ok.2 (.cons ?_ .nil)
    have hvalue : total.value.evaluate raw .groupBy (totals.mapping [sums]) =
        .ok { series := sums } := by
      show Expr.evaluate raw .groupBy _ (.node _ _ _) = _
      rw [Expr.evaluate, show Mapping.find? _ (.node _ _ _) = _ from hfind]
    rw [aggColumn, hvalue]
    rfl
  exact ⟨_, evaluate_eq_ok.2 ⟨_, _, _, _, _, rfl, rfl, rfl, rfl, hcolumn _, rfl⟩⟩

/-- The total of each customer is the sum over the orders of the customer. -/
theorem column_eq_values_of_group_totals :
    ∃ out ks groups, totals.evaluate ordersFrame = .ok out ∧
      totals.keySeries ordersFrame = .ok ks ∧ GroupBy.groups true ordersFrame ks = .ok groups ∧
      IsGrouping (Series.sameRows ks) ordersFrame.rows groups ∧
      ∃ c, out.column "total" = .ok c ∧ c.length = groups.length ∧
        ∀ i (hi : i < groups.length),
          total.value.values (ordersFrame.select groups[i]) .frame .empty =
            .ok (c.series.select [i]) := by
  obtain ⟨out, hout⟩ := exists_evaluate_totals
  have hall {P : NamedExpr → Prop} (h : P total) (a : NamedExpr) (ha : a ∈ [total]) : P a :=
    List.mem_singleton.1 ha ▸ h
  obtain ⟨ks, groups, hks, hgroups, hgrouping, -, haggs⟩ :=
    column_eq_values_of_group (show plan [customer] [total] true = .ok totals from rfl)
      (List.cons_ne_nil _ _) (hall ⟨true, .base isColumnReduction_total⟩) (hall keepsTypes_total)
      (hall declares_total) hout
  exact ⟨out, ks, groups, hout, hks, hgroups, hgrouping, haggs total (List.mem_singleton_self _)⟩

end GroupBy

end Tabular
