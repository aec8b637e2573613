import Mathlib.Algebra.BigOperators.Ring.Finset
import Tabular.Proofs.Grouping.Completeness
import Tabular.Proofs.Grouping.Reordering
import Tabular.Proofs.Order.Extrema
import Tabular.Proofs.Rows.Sums

/-!
# Totals of groups

Grouping loses no row and takes none twice, so what is told of the groups can be put together to
what is told of the frame: sums of integers add up modulo `2 ^ 64`, numbers of rows and of values
add up, and the least of the least values is the least value (`GroupBy.totals_add_up`).

A reduction of a column is a function of its rows (`ReducesTo`), which is applied to all rows
for the frame and to those of each group for the grouping. Each law is then one about the rows of a
list of parts, and these are the rows of the frame in another order (`flatMap_rowsAt_perm`).
What remains is that the grouping succeeds: its expressions are requests that have answers for any
groups (`GroupBy.AnsweredBy`), so it does, and the answers are its columns
(`GroupBy.exists_evaluate_of_answers`).

Sums are compared modulo `2 ^ 64` because each of them has been wrapped by itself: neither the sums
of the groups nor that of the frame need fit.
-/

namespace Tabular

/-! ### Rows of groups -/

/-- The rows at the places of a group. -/
def rowsAt {d : DataType} (rows : List (Option d.Value)) (group : List Nat) :
    List (Option d.Value) :=
  group.map fun i ↦ (rows[i]?).join

/-- The groups have all rows, each of them once. -/
theorem flatMap_rowsAt_perm {d : DataType} {rows : List (Option d.Value)}
    {groups : List (List Nat)} (h : groups.flatten.Perm (List.range rows.length)) :
    (groups.flatMap (rowsAt rows)).Perm rows := by
  have hmap := h.map fun i ↦ (rows[i]?).join
  rw [show (List.range rows.length).map (fun i ↦ (rows[i]?).join) = rows from
    Series.map_range_rows ⟨d, rows⟩, List.map_flatten, ← List.flatMap_def] at hmap
  exact hmap

namespace AggRequest

/-- The results of a reduction that gives each group a row of the type of the owner. -/
theorem reduceGroups_eq {q : AggRequest} {values : Option Series} {groups : List (List Nat)}
    {x : List Nat → Option q.owner.dtype.Value} (hlist : q.reduction.isCollectList = false)
    (hcast : (Series.empty ((values.map Series.dtype).getD .null)).cast q.owner.dtype =
      .ok (.empty q.owner.dtype))
    (h : ∀ group, q.reduceGroup values group = .ok (.single q.owner.dtype (x group))) :
    q.reduceGroups values groups = .ok ⟨q.owner.dtype, groups.map x⟩ := by
  have hparts : groups.mapM (q.reduceGroup values) =
      .ok ((groups.map x).map (Series.single q.owner.dtype)) := by
    rw [funext h, mapM_ok, List.map_map]
    rfl
  rw [reduceGroups, hparts, Outcome.ok_bind, hlist, if_neg Bool.false_ne_true]
  by_cases hgroups : groups = []
  · -- without groups the type of the results is that of the input at first
    subst hgroups
    exact hcast
  · rw [stack_single _ fun hnil ↦ hgroups (List.map_eq_nil_iff.1 hnil)]
    exact if_pos rfl

end AggRequest

/-! ### Reductions of a column -/

/-- The reduction takes a column of type `e` to a row of type `d`, which is the given function of
its rows. -/
structure ReducesTo (g : AggFunction) (a : Expr) (e d : DataType)
    (x : List (Option e.Value) → Option d.Value) : Prop where
  ignoresNans : g.propagatesNans = false
  notFloating : e.isFloating = false
  cast_empty : (Series.empty e).cast d = .ok (.empty d)
  reduce : ∃ reduction, g.request [a] = .ok reduction ∧
    ∀ rows, (⟨e, rows⟩ : Series).reduce reduction = .ok (.single d (x rows))

namespace ReducesTo

variable {a : Expr} {t : IntType}

/-- A sum of integers is a function of the rows. -/
theorem sum : ReducesTo .sum a (.integer t) (.integer t.sumType) fun rows ↦
    some (.wrap t.sumType (valueSum rows)) where
  ignoresNans := rfl
  notFloating := rfl
  cast_empty := by cases t <;> rfl
  reduce := ⟨_, rfl, Series.sum_integer⟩

theorem count : ReducesTo .count a (.integer t) .int64 fun rows ↦
    some (.wrap .int64 (rows.countP Option.isSome : Nat)) where
  ignoresNans := rfl
  notFloating := rfl
  cast_empty := by cases t <;> rfl
  reduce := by
    refine ⟨_, rfl, fun rows ↦ ?_⟩
    have hcount : rows.length - rows.countP Option.isNone = rows.countP Option.isSome := by
      have hlen := List.length_eq_countP_add_countP Option.isSome (l := rows)
      have hnone : rows.countP (fun x ↦ ¬x.isSome) = rows.countP Option.isNone :=
        List.countP_congr fun x _ ↦ by cases x <;> simp
      omega
    rw [← hcount]
    rfl

/-- There is an extremum of every column of integers. -/
theorem exists_extremum (greatest : Bool) :
    ∃ x, ReducesTo (if greatest then .max false else .min false) a (.integer t) (.integer t) x ∧
      ∀ rows, IsExtremum (.integer t) greatest rows (x rows) := by
  choose x hx hextremum using Series.exists_extremum (d := .integer t) rfl greatest
  refine ⟨x, ?_, hextremum⟩
  cases greatest with
  | false => exact ⟨rfl, rfl, by cases t <;> rfl, _, rfl, hx⟩
  | true => exact ⟨rfl, rfl, by cases t <;> rfl, _, rfl, hx⟩

end ReducesTo

namespace GroupBy

section Reductions

variable {f : Frame} {a : Expr} {g : AggFunction} {e d : DataType} {rows : List (Option e.Value)}
  {x : List (Option e.Value) → Option d.Value}

/-- Over the frame the reduction is the function of all rows. -/
theorem values_of_reducesTo (h : ReducesTo g a e d x)
    (hrows : a.values f .frame .empty = .ok ⟨e, rows⟩) :
    (Expr.node d (.agg g) [a]).values f .frame .empty = .ok (.single d (x rows)) := by
  obtain ⟨reduction, hr, hreduce⟩ := h.reduce
  have hmasked : g.masked ⟨e, rows⟩ = ⟨e, rows⟩ :=
    AggFunction.masked_of_not_floating h.notFloating
  rw [Expr.values_agg h.ignoresNans hr, hrows, Outcome.ok_bind, hmasked, hreduce, Outcome.ok_bind]
  exact if_pos rfl

/-- The expression is the owner of its only request, and the given series are the answers to it,
whatever the groups are. -/
def AnsweredBy (f : Frame) (e : Expr) (answers : List (List Nat) → Series) : Prop :=
  ∃ q, q.owner = e ∧ Expr.Collects 0 e [q] ∧ ∀ groups, answer f groups q = .ok (answers groups)

/-- In groups the reduction is the function of the rows of each group. -/
theorem answeredBy_of_reducesTo (ha : a.IsColumn) (h : ReducesTo g a e d x)
    (hrows : a.values f .frame .empty = .ok ⟨e, rows⟩) :
    AnsweredBy f (.node d (.agg g) [a]) fun groups ↦
      ⟨d, groups.map fun group ↦ x (rowsAt rows group)⟩ := by
  obtain ⟨reduction, hr, hreduce⟩ := h.reduce
  obtain ⟨input, hinput⟩ : ∃ input, g.preparedInput a = .ok input :=
    ⟨_, AggFunction.preparedInput_eq g a⟩
  have hcollects : Expr.Collects 0 (.node d (.agg g) [a])
      [⟨some input, reduction, .node d (.agg g) [a]⟩] := by
    obtain ⟨_, _, _, rfl⟩ := ha
    exact .agg h.ignoresNans .col hr (Outcome.optionMapM_eq_ok.2 (.some hinput))
  -- Only floats are masked.
  have hmasked : g.maskedAs a.dtype ⟨e, rows⟩ = ⟨e, rows⟩ :=
    AggFunction.maskedAs_of_not_floating h.notFloating
  refine ⟨_, rfl, hcollects, fun groups ↦ Outcome.bind_eq_ok.2 ⟨some ⟨e, rows⟩, ?_, ?_⟩⟩
  · refine Outcome.optionMapM_eq_ok.2 (.some ?_)
    rw [evaluateFully_of_preparedInput ha hinput, hrows]
    exact congrArg Except.ok hmasked
  · have hlist := AggFunction.isCollectList_request hr
    refine AggRequest.reduceGroups_eq hlist h.cast_empty fun group ↦ ?_
    show ((⟨e, rows⟩ : Series).select group).reduce reduction = _
    rw [Series.select_eq]
    exact hreduce _

end Reductions

/-- The number of rows of each group. -/
theorem answeredBy_len (f : Frame) :
    AnsweredBy f (.node .int64 .len []) fun groups ↦
      ⟨.int64, groups.map fun group ↦ some (.wrap .int64 (group.length : Nat))⟩ := by
  refine ⟨.size (.node .int64 .len []), rfl, .len, fun groups ↦ ?_⟩
  refine Outcome.bind_eq_ok.2 ⟨none, rfl, ?_⟩
  refine AggRequest.reduceGroups_eq rfl rfl fun group ↦ ?_
  have hlen : (Series.nulls .null group.length).length = group.length := List.length_replicate
  show Except.ok (Series.ofInt ((Series.nulls .null group.length).length : Nat)) = _
  rw [hlen]
  rfl

/-! ### Groupings with answers -/

section Answers

variable {g : GroupBy} {f : Frame} {groups : List (List Nat)}

/-- Requests with answers have results. -/
theorem exists_results_of_answers (hg : g.Planned)
    (haggs : ∀ a ∈ g.aggs, ∃ answers, AnsweredBy f a.value answers) :
    ∃ results, g.results f groups = .ok results := by
  obtain ⟨results, hresults⟩ : ∃ results, g.requests.mapM (answer f groups) = .ok results := by
    refine Outcome.exists_mapM_eq_ok fun q hq ↦ ?_
    obtain ⟨a, ha, rs, hrs, hq⟩ := hg.requested q hq
    obtain ⟨answers, q', -, hq', hanswer⟩ := haggs a ha
    rw [hrs.unique hq', List.mem_singleton] at hq
    exact ⟨_, hq ▸ hanswer groups⟩
  exact ⟨results, results_eq_ok.2 hresults⟩

/-- The column of a request is its answer. -/
theorem aggColumn_of_answeredBy (hg : g.Planned) {results : List Series}
    (hresults : g.results f groups = .ok results) {a : NamedExpr} (ha : a ∈ g.aggs)
    {answers : List (List Nat) → Series} (h : AnsweredBy f a.value answers) (raw : Frame) :
    aggColumn raw (g.mapping results) groups.length a =
      .ok ⟨a.name, { series := answers groups }⟩ := by
  obtain ⟨q, howner, hq, hanswer⟩ := h
  obtain ⟨rs, hrs, hmem⟩ := hg.collects a ha
  obtain ⟨s, hfind, hs⟩ :=
    find?_mapping_owner hg hresults (hmem q (hrs.unique hq ▸ List.mem_singleton_self q))
  rw [hanswer] at hs
  injection hs with hs
  subst hs
  exact aggColumn_of_find? (howner ▸ hfind) (length_answer (hanswer groups))

end Answers

/-- **A grouping by keys whose expressions are requests with answers succeeds**, also without rows,
and the answers are its columns. -/
theorem exists_evaluate_of_answers {keys aggs : List NamedExpr} {f : Frame} (maintainOrder : Bool)
    (hne : keys ≠ [])
    (hkeys : ∀ k ∈ keys, ∃ s, k.value.values f .frame .empty = .ok s ∧ Fits s.rows f.rows)
    (hnames : ((keys ++ aggs).map NamedExpr.name).Nodup)
    (haggs : ∀ a ∈ aggs, ∃ answers, AnsweredBy f a.value answers) :
    ∃ g out ks groups, plan keys aggs maintainOrder = .ok g ∧ g.evaluate f = .ok out ∧
      g.keySeries f = .ok ks ∧ IsGrouping (Series.sameRows ks) f.rows groups ∧
      ∀ a ∈ aggs, ∀ answers, AnsweredBy f a.value answers →
        out.column a.name = .ok { series := answers groups } := by
  obtain ⟨g, hplan⟩ : ∃ g, plan keys aggs maintainOrder = .ok g :=
    exists_plan maintainOrder fun a ha ↦ by
      obtain ⟨_, q, -, hq, -⟩ := haggs a ha
      exact ⟨[q], hq⟩
  obtain ⟨rfl, rfl, rfl, hg⟩ := planned_of_plan hplan
  obtain ⟨ks, hks⟩ := exists_keySeries hkeys
  obtain ⟨groups, hgroups, hgrouping⟩ := groups_of_keys hks hne
  obtain ⟨results, hresults⟩ : ∃ results, g.results f groups = .ok results :=
    exists_results_of_answers hg haggs
  obtain ⟨raw, out, hout, hcolumns⟩ := exists_evaluate_of_results hks hgroups
    (.inr hgrouping.ne_nil) hnames hresults fun raw a ha ↦ by
      obtain ⟨_, h⟩ := haggs a ha
      exact ⟨_, aggColumn_of_answeredBy hg hresults ha h raw⟩
  refine ⟨g, out, ks, groups, hplan, hout, hks, hgrouping, fun a ha answers h ↦ ?_⟩
  obtain ⟨c, hc, hcolumn⟩ := hcolumns a ha
  rw [aggColumn_of_answeredBy hg hresults ha h] at hc
  injection hc with hc
  rw [hcolumn, ← hc]

/-! ### Totals -/

/-- The sum of a column of integers, in 64 bits and signed as they are. -/
def sumOf (t : IntType) (a : Expr) : Expr := .node (.integer t.sumType) (.agg .sum) [a]

/-- The number of values of a column. -/
def countOf (a : Expr) : Expr := .node .int64 (.agg .count) [a]

/-- The number of rows. -/
def rowTotal : Expr := .node .int64 .len []

/-- The least or the greatest value of a column of integers. -/
def extremumOf (greatest : Bool) (t : IntType) (a : Expr) : Expr :=
  .node (.integer t) (.agg (if greatest then .max false else .min false)) [a]

/-- The names of the totals of a column. -/
structure TotalNames where
  sum : String
  count : String
  size : String
  least : String
  greatest : String

/-- The totals of a column of integers. -/
def TotalNames.exprs (n : TotalNames) (t : IntType) (a : Expr) : List NamedExpr :=
  [⟨n.sum, sumOf t a⟩, ⟨n.count, countOf a⟩, ⟨n.size, rowTotal⟩, ⟨n.least, extremumOf false t a⟩,
    ⟨n.greatest, extremumOf true t a⟩]

/-- The expression counts something in the frame, `n` in all, and the column has the numbers in the
groups. They add up to `n` modulo `2 ^ 64`, and exactly if 64 bits can hold it. -/
def CountsAddUp (f out : Frame) (name : String) (e : Expr) (n : Nat) : Prop :=
  ∃ counts : List (FixedInt .int64), e.values f .frame .empty = .ok (.ofInt n) ∧
    out.column name = .ok { series := ⟨.int64, counts.map some⟩ } ∧
    (counts.map FixedInt.toInt).sum ≡ n [ZMOD 2 ^ 64] ∧
    (n ≤ IntType.int64.max → (counts.map FixedInt.toInt).sum = n)

/-- The column holds the extrema of groups, of which the extremum of the frame is one: it is null
just if all of them are, and no value among them goes beyond it. -/
def ExtremaAgree (f out : Frame) (name : String) (greatest : Bool) (t : IntType) (a : Expr) :
    Prop :=
  ∃ (m : Option (FixedInt t)) (ms : List (Option (FixedInt t))),
    (extremumOf greatest t a).values f .frame .empty = .ok (.single (.integer t) m) ∧
    out.column name = .ok { series := ⟨.integer t, ms⟩ } ∧ (m = none ↔ ∀ x ∈ ms, x = none) ∧
    ∀ v, m = some v → some v ∈ ms ∧
      ∀ w, some w ∈ ms → if greatest then w.toInt ≤ v.toInt else v.toInt ≤ w.toInt

/-- The totals of groups add up to those of the frame. -/
structure TotalsAddUp (f out : Frame) (n : TotalNames) (t : IntType) (a : Expr)
    (rows : List (Option (FixedInt t))) : Prop where
  /-- The sums add up modulo `2 ^ 64`; none of them is null. -/
  sum : ∃ (total : FixedInt t.sumType) (sums : List (FixedInt t.sumType)),
    (sumOf t a).values f .frame .empty = .ok (.single (.integer t.sumType) (some total)) ∧
    out.column n.sum = .ok { series := ⟨.integer t.sumType, sums.map some⟩ } ∧
    (sums.map FixedInt.toInt).sum ≡ total.toInt [ZMOD 2 ^ 64]
  /-- The numbers of values add up to that of the frame. -/
  count : CountsAddUp f out n.count (countOf a) (rows.countP Option.isSome)
  /-- The numbers of rows add up to that of the frame. -/
  size : CountsAddUp f out n.size rowTotal f.rows
  least : ExtremaAgree f out n.least false t a
  greatest : ExtremaAgree f out n.greatest true t a

section Parts

variable {f out : Frame} {a : Expr} {t : IntType} {rows : List (Option (FixedInt t))}
  {groups : List (List Nat)} {name : String}

/-- Sums of groups add up. -/
theorem sum_wrap_valueSum_modEq
    (hperm : (groups.flatMap (rowsAt (d := .integer t) rows)).Perm rows) :
    ((groups.map fun group ↦ FixedInt.wrap t.sumType
        (valueSum (rowsAt (d := .integer t) rows group))).map FixedInt.toInt).sum ≡
      (FixedInt.wrap t.sumType (valueSum rows)).toInt [ZMOD 2 ^ 64] := by
  have hwidth : (twoTo t.sumType.width : Int) = 2 ^ 64 := by
    rw [IntType.width_sumType]
    rfl
  have hsum : (groups.map fun group ↦ valueSum (rowsAt (d := .integer t) rows group)).sum =
      valueSum rows := by
    rw [← valueSum_flatMap]
    exact valueSum_of_perm hperm
  have hparts := sum_toInt_wrap_modEq t.sumType
    (fun group ↦ valueSum (rowsAt (d := .integer t) rows group)) groups
  have hwhole := FixedInt.wrapInt_modEq t.sumType (valueSum rows)
  rw [hsum, hwidth] at hparts
  rw [hwidth] at hwhole
  exact hparts.trans hwhole.symm

/-- Numbers in groups add up. -/
theorem countsAddUp {e : Expr} {count : List Nat → Nat} {n : Nat}
    (hvalue : e.values f .frame .empty = .ok (.ofInt n))
    (hcolumn : out.column name = .ok { series :=
      ⟨.int64, groups.map fun group ↦ some (.wrap .int64 (count group : Nat))⟩ })
    (hsum : (groups.map count).sum = n) : CountsAddUp f out name e n := by
  subst hsum
  refine ⟨groups.map fun group ↦ .wrap .int64 (count group : Nat), hvalue, ?_, ?_,
    fun hmax ↦ sum_toInt_wrap_eq hmax⟩
  · rw [hcolumn, List.map_map]
    rfl
  · have hcast : (((groups.map count).sum : Nat) : Int) =
        (groups.map fun group ↦ (count group : Int)).sum := by
      rw [Nat.cast_list_sum, List.map_map]
      rfl
    rw [hcast]
    exact sum_toInt_wrap_modEq .int64 (fun group ↦ (count group : Int)) groups

/-- The extremum of the frame is that of the extrema of groups. -/
theorem extremaAgree {greatest : Bool}
    {x : List (Option (FixedInt t)) → Option (FixedInt t)}
    (hreduces : ReducesTo (if greatest then .max false else .min false) a (.integer t)
      (.integer t) x)
    (hx : ∀ rows, IsExtremum (.integer t) greatest rows (x rows))
    (hrows : a.values f .frame .empty = .ok ⟨.integer t, rows⟩)
    (hperm : (groups.flatMap (rowsAt (d := .integer t) rows)).Perm rows)
    (hcolumn : out.column name = .ok { series :=
      ⟨.integer t, groups.map fun group ↦ x (rowsAt (d := .integer t) rows group)⟩ }) :
    ExtremaAgree f out name greatest t a := by
  have hparts : IsExtremum (.integer t) greatest
      (groups.map fun group ↦ x (rowsAt (d := .integer t) rows group)) (x rows) :=
    .of_parts (fun group _ ↦ hx _) ((hx rows).of_perm hperm.symm)
  exact ⟨x rows, _, values_of_reducesTo hreduces hrows, hcolumn, hparts.eq_none_iff,
    fun v hv ↦ ⟨hparts.mem v hv, fun w hw ↦ precedes_integer_iff.1 (hparts.precedes v hv w hw)⟩⟩

end Parts

/-- **The totals of groups add up to those of the frame**, for any keys and any column of
integers. -/
theorem totals_add_up {keys : List NamedExpr} {n : TotalNames} {t : IntType} {a : Expr} {f : Frame}
    {rows : List (Option (FixedInt t))} (maintainOrder : Bool) (hne : keys ≠ [])
    (hkeys : ∀ k ∈ keys, ∃ s, k.value.values f .frame .empty = .ok s ∧ Fits s.rows f.rows)
    (hnames : ((keys ++ n.exprs t a).map NamedExpr.name).Nodup) (ha : a.IsColumn)
    (hrows : a.values f .frame .empty = .ok ⟨.integer t, rows⟩) :
    ∃ g out, plan keys (n.exprs t a) maintainOrder = .ok g ∧ g.evaluate f = .ok out ∧
      TotalsAddUp f out n t a rows := by
  obtain ⟨least, hleast, hleasts⟩ := ReducesTo.exists_extremum (a := a) (t := t) false
  obtain ⟨greatest, hgreatest, hgreatests⟩ := ReducesTo.exists_extremum (a := a) (t := t) true
  -- Each reduction is answered group by group, by the function that answers it over the frame.
  have hsum := answeredBy_of_reducesTo ha .sum hrows
  have hcount := answeredBy_of_reducesTo ha .count hrows
  have hmin := answeredBy_of_reducesTo ha hleast hrows
  have hmax := answeredBy_of_reducesTo ha hgreatest hrows
  have hanswers : ∀ b ∈ n.exprs t a, ∃ answers, AnsweredBy f b.value answers := by
    simp only [TotalNames.exprs, List.forall_mem_cons]
    exact ⟨⟨_, hsum⟩, ⟨_, hcount⟩, ⟨_, answeredBy_len f⟩, ⟨_, hmin⟩, ⟨_, hmax⟩,
      List.forall_mem_nil _⟩
  obtain ⟨g, out, ks, groups, hplan, hout, -, hgrouping, hcolumns⟩ :=
    exists_evaluate_of_answers maintainOrder hne hkeys hnames hanswers
  simp only [TotalNames.exprs, List.forall_mem_cons] at hcolumns
  obtain ⟨hsums, hcounts, hsizes, hmins, hmaxs, -⟩ := hcolumns
  have hlen : rows.length = f.rows := (Expr.values_column ha hrows).1
  -- The groups hold every row once, and the totals rest on nothing else.
  have hperm : (groups.flatMap (rowsAt (d := .integer t) rows)).Perm rows :=
    flatMap_rowsAt_perm (hlen ▸ hgrouping.perm)
  exact ⟨g, out, hplan, hout, {
    sum := by
      refine ⟨_, groups.map _, values_of_reducesTo .sum hrows, ?_, sum_wrap_valueSum_modEq hperm⟩
      rw [hsums _ hsum, List.map_map]
      rfl
    count := by
      refine countsAddUp (values_of_reducesTo .count hrows) (hcounts _ hcount) ?_
      rw [← hperm.countP_eq, List.countP_flatMap]
      rfl
    size := by
      have hrowCount : (groups.map List.length).sum = f.rows := by
        rw [← List.length_flatten, hgrouping.perm.length_eq, List.length_range]
      exact countsAddUp ((Expr.values_len (Mapping.find?_empty _)).trans (if_pos rfl))
        (hsizes _ (answeredBy_len f)) hrowCount
    least := extremaAgree hleast hleasts hrows hperm (hmins _ hmin)
    greatest := extremaAgree hgreatest hgreatests hrows hperm (hmaxs _ hmax) }⟩

/-- The totals by customer add up to those of all orders. -/
theorem totals_add_up_orders : ∃ g out,
    plan [customer] (TotalNames.exprs ⟨"sum", "count", "size", "least", "greatest"⟩ .int64
        (.node .int64 (.col "amount") [])) true = .ok g ∧
      g.evaluate ordersFrame = .ok out ∧
      TotalsAddUp ordersFrame out ⟨"sum", "count", "size", "least", "greatest"⟩ .int64
        (.node .int64 (.col "amount") [])
        ([3, 4, 5].map fun i ↦ some (FixedInt.wrap .int64 i)) :=
  totals_add_up true (List.cons_ne_nil _ _) (List.forall_mem_singleton.2 ⟨_, rfl, .inl rfl⟩)
    (by decide) ⟨_, _, _, rfl⟩ rfl

end GroupBy

end Tabular
