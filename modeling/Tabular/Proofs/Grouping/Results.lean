import Mathlib.Data.List.GetD
import Tabular.Proofs.Grouping.Groups
import Tabular.Proofs.Requests.Input
import Tabular.Proofs.Rows.Tree

/-!
# Results of requests

A request is answered in three steps: its input is evaluated over the frame, the rows of each group
are reduced, and what comes out is put together into one series, of which each row is cast to the
type that the owner declares. `GroupBy.agrees_request` says that this agrees with the evaluation of
the owner over the rows of each group, provided that the input can be evaluated before or after rows
are selected (`Frame.RowByRow`).

What comes out can be put together because a reduction gives one row, of a type that depends on the
type of the input alone (`Series.reduce_eq_ok`): the first part says what type the others have. And
it can be cast together since a cast converts row by row, so that casting the whole is casting each
part (`agrees_stack`).

Where the groups come from is not asked. They are lists of places of the frame, at least one, and an
empty one only if the frame has no rows (`Frame.HasGroups`). This covers the groups by keys and the
single group of all rows that there is without keys.
-/

namespace Tabular

/-! ### Reductions -/

/-- The type of what a reduction gives for rows of type `d`. -/
def Aggregation.resultType (d : DataType) : Aggregation → DataType
  | collectList => .list d
  | count _ => .int64
  | nthElement _ _ => d
  | min => d
  | max => d
  | median => .float64
  | nUnique _ => .int64
  | mean => .float64
  | sum =>
    match d with
    | .float _ => .float64
    | .integer t => .integer (if t.signed then .int64 else .uint64)
    | _ => .int64
  | std _ => .float64
  | var _ => .float64
  | quantile _ _ => .float64

/-- Only one reduction collects lists. -/
theorem Aggregation.eq_collectList {agg : Aggregation} (h : agg.isCollectList = true) :
    agg = .collectList := by
  cases agg <;> first | rfl | cases h

namespace Series

variable {s t : Series}

/-- The places in sorted order are all the places. -/
theorem perm_of_sortRanked {key : SortKey} {how : PlaceSort} {places : List Nat}
    (h : s.sortRanked key how = .ok places) : places.Perm (List.range s.length) := by
  unfold sortRanked at h
  split at h
  · injection h with h
    exact h ▸ how.perm _ _
  · cases h

/-- An extremum is a row of the series. -/
theorem extremum_eq_ok {greatest : Bool} (h : s.extremum greatest = .ok t) :
    ∃ x, t = single s.dtype x := by
  unfold extremum at h
  split at h
  · injection h with h
    exact ⟨none, h.symm⟩
  · next hrows =>
    obtain ⟨places, hplaces, h⟩ := Outcome.bind_eq_ok.1 h
    injection h with h
    subst h
    have hlen := (perm_of_sortRanked hplaces).length_eq
    rw [List.length_range] at hlen
    cases places with
    | nil => exact absurd (List.length_eq_zero_iff.1 hlen.symm) hrows
    | cons i is =>
      rw [List.take_succ_cons, List.take_zero, select_eq]
      exact ⟨_, rfl⟩

theorem exists_nth (s : Series) (n : Int) (includeNulls : Bool) :
    ∃ x, s.nth n includeNulls = single s.dtype x := by
  obtain ⟨rows, hrows⟩ : ∃ rows : List (Option s.dtype.Value),
      (if includeNulls || s.nullCount = 0 then s
        else ⟨s.dtype, s.rows.filter Option.isSome⟩) = ⟨s.dtype, rows⟩ := by
    split
    · exact ⟨s.rows, rfl⟩
    · exact ⟨_, rfl⟩
  simp only [nth, hrows]
  generalize (if n < 0 then ((⟨s.dtype, rows⟩ : Series).length : Int) + n else n) = i
  split
  · exact ⟨none, rfl⟩
  · next hi =>
    have hlt : i.toNat < rows.length := by
      have hlen : (⟨s.dtype, rows⟩ : Series).length = rows.length := rfl
      omega
    refine ⟨rows[i.toNat], ?_⟩
    rw [window, single, List.take_one, List.head?_drop, List.getElem?_eq_getElem hlt]
    rfl

/-- A quantile is a floating-point number. -/
theorem quantile_eq_ok {q : Binary .double} {interpolation : Interpolation}
    (h : s.quantile q interpolation = .ok t) : ∃ x, t = single .float64 x := by
  unfold quantile at h
  split at h
  · obtain ⟨_, _, h⟩ := Outcome.bind_eq_ok.1 h
    injection h with h
    exact ⟨_, h.symm⟩
  · cases h

/-- A sum has its own type. -/
theorem sum_eq_ok (h : s.sum = .ok t) :
    ∃ x, t = single (Aggregation.resultType s.dtype .sum) x := by
  obtain ⟨d, rows⟩ := s
  cases d <;> simp only [sum] at h <;> first
    | (obtain ⟨_, _, h⟩ := Outcome.bind_eq_ok.1 h; injection h with h; exact ⟨_, h.symm⟩)
    | (injection h with h; exact ⟨_, h.symm⟩)
    | cases h

/-- **A reduction gives one row**, of a type that depends on the type of the input alone. -/
theorem reduce_eq_ok {agg : Aggregation} (h : s.reduce agg = .ok t) :
    ∃ x, t = single (agg.resultType s.dtype) x := by
  cases agg <;> simp only [reduce] at h
  case min | max => exact extremum_eq_ok h
  case nthElement n includeNulls =>
    injection h with h
    exact h ▸ exists_nth s n includeNulls
  case median | quantile => exact quantile_eq_ok h
  case sum => exact sum_eq_ok h
  case collectList | count | nUnique =>
    injection h with h
    exact ⟨_, h.symm⟩
  case mean | std | var =>
    obtain ⟨_, _, h⟩ := Outcome.bind_eq_ok.1 h
    injection h with h
    exact ⟨_, h.symm⟩

end Series

/-! ### Results put together -/

/-- A single row is one of its type. -/
@[simp]
theorem rowsAs?_single {d : DataType} (x : Option d.Value) :
    (Series.single d x).rowsAs? d = some [x] :=
  dif_pos rfl

/-- Single rows of one type are put one below the other. -/
theorem stack_single {d : DataType} {xs : List (Option d.Value)} (e : DataType) (hne : xs ≠ []) :
    AggRequest.stack e (xs.map (Series.single d)) = ⟨d, xs⟩ := by
  obtain ⟨x, xs, rfl⟩ := List.exists_cons_of_ne_nil hne
  have hrows (ys : List (Option d.Value)) :
      ((ys.map (Series.single d)).flatMap fun s ↦ (s.rowsAs? d).getD []) = ys := by
    induction ys with
    | nil => rfl
    | cons y ys ih =>
      rw [List.map_cons, List.flatMap_cons, ih, rowsAs?_single]
      rfl
  exact congrArg (Series.mk d) (hrows (x :: xs))

/-- Single rows of one type for all groups. -/
theorem exists_singles {α : Type} {d : DataType} {part : α → Outcome Series}
    (hpart : ∀ a t, part a = .ok t → ∃ x, t = .single d x) {as : List α} {ts : List Series}
    (h : as.mapM part = .ok ts) : ∃ xs : List (Option d.Value), ts = xs.map (Series.single d) := by
  rw [Outcome.mapM_eq_ok] at h
  induction h with
  | nil => exact ⟨[], rfl⟩
  | cons ha _ ih =>
    obtain ⟨x, rfl⟩ := hpart _ _ ha
    obtain ⟨xs, rfl⟩ := ih
    exact ⟨x :: xs, rfl⟩

/-- **What is put together from the groups agrees with each of them**, if every group gives a single
row of one type. -/
theorem agrees_stack {d : DataType} {part : List Nat → Outcome Series} {groups : List (List Nat)}
    (hne : groups ≠ []) (e : DataType)
    (hpart : ∀ group t, part group = .ok t → ∃ x, t = .single d x) :
    Agrees groups.length (groups.mapM part >>= fun parts ↦ .ok (AggRequest.stack e parts))
      fun i ↦ part (groups.getD i []) := by
  -- there is a group, so the results have the type of the parts and not `e`
  have hstack {s : Series}
      (hs : groups.mapM part >>= (fun parts ↦ .ok (AggRequest.stack e parts)) = .ok s) :
      ∃ xs : List (Option d.Value), s = ⟨d, xs⟩ ∧
        List.Forall₂ (fun group x ↦ part group = .ok (.single d x)) groups xs := by
    obtain ⟨ts, hts, hs⟩ := Outcome.bind_eq_ok.1 hs
    injection hs with hs
    obtain ⟨xs, rfl⟩ := exists_singles hpart hts
    have hrel := Outcome.mapM_eq_ok.1 hts
    rw [List.forall₂_map_right_iff] at hrel
    have hxs : xs ≠ [] := by
      rintro rfl
      exact hne (List.forall₂_nil_right_iff.1 hrel)
    exact ⟨xs, hs ▸ stack_single e hxs, hrel⟩
  refine ⟨fun hs ↦ ?_, fun hs i hi ↦ ?_, fun hparts ↦ ?_⟩
  · obtain ⟨xs, rfl, hrel⟩ := hstack hs
    exact .inl hrel.length_eq.symm
  · obtain ⟨xs, rfl, hrel⟩ := hstack hs
    have hi' : i < xs.length := hrel.length_eq ▸ hi
    have hrow : (⟨d, xs⟩ : Series).rows[i]? = some xs[i] := List.getElem?_eq_getElem hi'
    rw [Series.pick_eq_select (show i < (⟨d, xs⟩ : Series).length from hi'),
      Series.select_singleton hrow, List.getD_eq_getElem _ _ hi]
    exact hrel.get hi hi'
  · obtain ⟨ts, hts⟩ : ∃ ts, groups.mapM part = .ok ts := Outcome.exists_mapM_eq_ok fun g hg ↦ by
      obtain ⟨i, hi, rfl⟩ := List.mem_iff_getElem.1 hg
      have hpart := hparts i hi
      rwa [List.getD_eq_getElem _ _ hi] at hpart
    rw [hts]
    exact ⟨_, rfl⟩

namespace AggRequest

variable {q : AggRequest} {values : Option Series} {groups : List (List Nat)}

/-- A group gives one row, of a type that is the same for all groups. -/
theorem reduceGroup_eq_ok {group : List Nat} {t : Series}
    (h : q.reduceGroup values group = .ok t) :
    ∃ x, t = .single (q.reduction.resultType ((values.map Series.dtype).getD .null)) x := by
  cases values with
  | none => exact Series.reduce_eq_ok h
  | some s =>
    have hdtype : (s.select group).dtype = s.dtype := by rw [Series.select_eq]
    obtain ⟨x, rfl⟩ := Series.reduce_eq_ok h
    rw [Option.map_some, Option.getD_some, ← hdtype]
    exact ⟨x, rfl⟩

/-- The results of a reduction agree with what it gives for each group, cast to the type of the
owner. -/
theorem agrees_reduceGroups (hne : groups ≠ []) (hq : q.reduction.isCollectList = false) :
    Agrees groups.length (q.reduceGroups values groups) fun i ↦
      q.reduceGroup values (groups.getD i []) >>= fun t ↦ t.cast q.owner.dtype := by
  have hcast : q.reduceGroups values groups = (groups.mapM (q.reduceGroup values) >>=
      fun parts ↦ .ok (stack ((values.map Series.dtype).getD .null) parts)) >>=
        fun t ↦ t.cast q.owner.dtype := by
    unfold reduceGroups
    simp only [hq, Bool.false_eq_true, if_false]
    cases groups.mapM (q.reduceGroup values) <;> rfl
  rw [hcast]
  exact (agrees_stack hne _ fun _ _ ↦ reduceGroup_eq_ok).bind_elementwise
    (Series.elementwise_cast _) (List.length_pos_iff.2 hne)

end AggRequest

/-! ### Inputs row by row -/

/-- Where the expression has a value over the frame, this has a row for each of the frame, and rows
can be selected before or after the expression is evaluated. -/
def Frame.RowByRow (f : Frame) (e : Expr) : Prop :=
  ∀ s, e.values f .frame .empty = .ok s → s.length = f.rows ∧
    ∀ places, (∀ i ∈ places, i < f.rows) → (places = [] → f.rows = 0) →
      e.values (f.select places) .frame .empty = .ok (s.select places)

/-- Trees over columns are evaluated row by row. -/
theorem Expr.RowTree.rowByRow {f : Frame} {e : Expr} (hpos : 0 < f.rows)
    (h : Expr.RowTree Expr.IsColumn true e) : f.RowByRow e := by
  refine fun s hs ↦ ⟨h.length_column hpos hs, fun places hplaces hempty ↦ ?_⟩
  exact h.values_select (fun hnil ↦ absurd (hempty hnil) (Nat.ne_of_gt hpos)) hplaces hs

/-- The expression reduces the rows of a frame to one value: it is their number, or a reduction of
an input that is evaluated row by row and is no cast. For an extremum the input says truly whether
it is floating point. -/
inductive Frame.Reduces (f : Frame) : Expr → Prop
  | len {d : DataType} {cs : List Expr} : Reduces f (.node d .len cs)
  | agg {d : DataType} {g : AggFunction} {c : Expr} {cs : List Expr} :
      c.kind ≠ .cast → c.kind ≠ .len → f.RowByRow c →
      (g.isMinOrMax = true → ∀ s, c.values f .frame .empty = .ok s →
        s.dtype.isFloating = c.dtype.isFloating) →
      Reduces f (.node d (.agg g) (c :: cs))

/-- The frame has groups of rows of its own. Only a frame without rows has a group without. -/
structure Frame.HasGroups (f : Frame) (groups : List (List Nat)) : Prop where
  ne_nil : groups ≠ []
  lt : ∀ group ∈ groups, ∀ i ∈ group, i < f.rows
  rows_eq_zero : ∀ group ∈ groups, group = [] → f.rows = 0

/-- The groups by keys are such groups, if there are any. -/
theorem IsGrouping.hasGroups {same : Nat → Nat → Bool} {f : Frame} {groups : List (List Nat)}
    (h : IsGrouping same f.rows groups) (hne : groups ≠ []) : f.HasGroups groups where
  ne_nil := hne
  lt _ hg _ hi := h.lt hg hi
  rows_eq_zero _ hg hnil := absurd hnil (h.ne_nil _ hg)

namespace Series

@[simp]
theorem length_maskNans (s : Series) : s.maskNans.length = s.length := by
  obtain ⟨d, rows⟩ := s
  cases d with
  | float t =>
    cases ht : t.hasArithmetic with
    | true => rw [maskNans_float ht, length, length, List.length_map]
    | false => rw [maskNans_of_not_hasArithmetic ht]
  | _ => rfl

/-- NaNs are masked row by row. -/
theorem maskNans_select (s : Series) (places : List Nat) :
    (s.select places).maskNans = s.maskNans.select places := by
  obtain ⟨d, rows⟩ := s
  rw [select_eq, select_eq]
  cases d with
  | float t =>
    cases ht : t.hasArithmetic with
    | false => rw [maskNans_of_not_hasArithmetic ht, maskNans_of_not_hasArithmetic ht]
    | true =>
      rw [maskNans_float ht, maskNans_float ht, List.map_map]
      refine congrArg (Series.mk (.float t)) (List.map_congr_left fun i _ ↦ ?_)
      simp only [Function.comp_apply, List.getElem?_map]
      cases rows[i]? with
      | none => rfl
      | some row => rfl
  | _ => rfl

end Series

/-- No reduction node collects its rows. -/
theorem AggFunction.isCollectList_request {g : AggFunction} {cs : List Expr}
    {reduction : Aggregation} (h : g.request cs = .ok reduction) :
    reduction.isCollectList = false := by
  cases g <;> simp only [request] at h
  case quantile =>
    split at h
    · obtain ⟨_, _, h⟩ := Outcome.bind_eq_ok.1 h
      injection h with h
      exact h ▸ rfl
    · cases h
  all_goals
    injection h with h
    exact h ▸ rfl

theorem AggFunction.masked_select (g : AggFunction) (s : Series) (places : List Nat) :
    g.masked (s.select places) = (g.masked s).select places := by
  unfold masked
  split
  · exact Series.maskNans_select s places
  · rfl

/-- The value of a reduction that does not propagate NaNs. -/
theorem Expr.values_agg {f : Frame} {d : DataType} {g : AggFunction} {c : Expr} {cs : List Expr}
    {reduction : Aggregation} (hg : g.propagatesNans = false)
    (hr : g.request (c :: cs) = .ok reduction) :
    (Expr.node d (.agg g) (c :: cs)).values f .frame .empty = c.values f .frame .empty >>= fun s ↦
      (g.masked s).reduce reduction >>= fun t ↦ t.cast d := by
  rw [values_node (Mapping.find?_empty _), values]
  show (c.evaluate f .frame .empty >>= g.onColumn d (c :: cs)).map Column.series = _
  cases c.evaluate f .frame .empty with
  | error e => rfl
  | ok col =>
    have hinput : (if g.isMinOrMax then col.maskNans.series else col.series) =
        g.masked col.series := by
      unfold AggFunction.masked
      split
      · exact Column.series_maskNans col
      · rfl
    have hcol : g.onColumn d (c :: cs) col = (g.masked col.series).reduce reduction >>= fun t ↦
        t.cast d >>= fun s ↦ .ok { series := s } := by
      rw [AggFunction.onColumn, hg, hr, ← hinput]
      rfl
    rw [Outcome.ok_bind, hcol]
    show _ = (g.masked col.series).reduce reduction >>= fun t ↦ t.cast d
    cases (g.masked col.series).reduce reduction with
    | error e => rfl
    | ok t => cases ht : t.cast d <;> simp only [Outcome.ok_bind, ht] <;> rfl

namespace GroupBy

variable {f : Frame} {e : Expr} {q : AggRequest} {values : Option Series}
  {groups : List (List Nat)}

/-- An input is evaluated over the frame and spread over its rows. -/
theorem evaluateFully_eq (f : Frame) (e : Expr) :
    evaluateFully f e = e.values f .frame .empty >>= fun s ↦ s.broadcast f.rows := by
  unfold evaluateFully Expr.values
  cases e.evaluate f .frame .empty <;> rfl

/-- The input of a reduction that is evaluated row by row is prepared from the value of its
child. -/
theorem exists_input_of_agg {d : DataType} {g : AggFunction} {c : Expr} {cs : List Expr}
    (hq : Expr.Collects 0 (.node d (.agg g) (c :: cs)) [q]) (hcast : c.kind ≠ .cast)
    (hlen : c.kind ≠ .len) :
    ∃ input reduction, g.propagatesNans = false ∧ g.request (c :: cs) = .ok reduction ∧
      g.preparedInput c = .ok input ∧
      q = ⟨some input, reduction, .node d (.agg g) (c :: cs)⟩ := by
  cases hq with
  | agg hg hc hr hi =>
    rcases hc.eq_list_or_size with ⟨-, rfl⟩ | ⟨hlen', -⟩
    · rw [Expr.uncast_eq_self hcast] at hi
      obtain ⟨hp⟩ := Outcome.optionMapM_eq_ok.1 hi
      exact ⟨_, _, hg, hr, hp, rfl⟩
    · rw [Expr.uncast_eq_self hcast] at hlen'
      exact absurd hlen' hlen

/-- The prepared input has the child's value over the frame, without NaNs for an extremum. -/
theorem evaluateFully_input {g : AggFunction} {c input : Expr} (hp : g.preparedInput c = .ok input)
    (hrows : f.RowByRow c)
    (hfloat : g.isMinOrMax = true → ∀ s, c.values f .frame .empty = .ok s →
      s.dtype.isFloating = c.dtype.isFloating) :
    evaluateFully f input = (c.values f .frame .empty).map g.masked := by
  rw [evaluateFully_eq, AggFunction.values_preparedInput hp]
  cases hs : c.values f .frame .empty with
  | error err => rfl
  | ok s =>
    -- masking does not depend on where it is decided, and keeps the number of rows
    have hmasked : g.maskedAs c.dtype s = g.masked s :=
      AggFunction.maskedAs_eq_masked fun hg ↦ hfloat hg s hs
    have hlen : (g.masked s).length = f.rows := by
      rw [← (hrows s hs).1, AggFunction.masked]
      split
      · exact Series.length_maskNans s
      · rfl
    show (g.maskedAs c.dtype s).broadcast f.rows = .ok (g.masked s)
    rw [hmasked, Series.broadcast_self hlen]

/-- The input of a request can be evaluated over the frame if its owner can. -/
theorem exists_input (hq : Expr.Collects 0 e [q]) (he : f.Reduces e)
    (hs : ∃ s, e.values f .frame .empty = .ok s) :
    ∃ values, q.input.mapM (evaluateFully f) = .ok values := by
  cases he with
  | len =>
    cases hq with
    | len => exact ⟨none, rfl⟩
  | agg hcast hlen hrows hfloat =>
    obtain ⟨input, reduction, hg, hr, hp, rfl⟩ := exists_input_of_agg hq hcast hlen
    obtain ⟨s, hs⟩ := hs
    rw [Expr.values_agg hg hr] at hs
    obtain ⟨s₀, hs₀, -⟩ := Outcome.bind_eq_ok.1 hs
    have hinput := evaluateFully_input hp hrows hfloat
    rw [hs₀] at hinput
    exact ⟨_, Outcome.optionMapM_eq_ok.2 (.some hinput)⟩

/-- **The answer to a request agrees with its owner** on the frame of the rows of every group. -/
theorem agrees_request (hq : Expr.Collects 0 e [q]) (he : f.Reduces e)
    (hvalues : q.input.mapM (evaluateFully f) = .ok values) (hgroups : f.HasGroups groups) :
    Agrees groups.length (q.reduceGroups values groups) fun i ↦
      e.values (f.select (groups.getD i [])) .frame .empty := by
  have hmem (i : Nat) (hi : i < groups.length) : groups.getD i [] ∈ groups := by
    rw [List.getD_eq_getElem _ _ hi]
    exact List.getElem_mem hi
  cases he with
  | len =>
    cases hq with
    | len =>
      obtain ⟨⟩ := Outcome.optionMapM_eq_ok.1 hvalues
      refine (AggRequest.agrees_reduceGroups hgroups.ne_nil rfl).congr fun i hi ↦ ?_
      rw [Expr.values_len (Mapping.find?_empty _), Frame.rows_select (hgroups.lt _ (hmem i hi))]
      simp only [AggRequest.reduceGroup, AggRequest.size, Series.reduce, Series.nulls,
        Series.length, List.length_replicate, if_true]
      rfl
  | agg hcast hlen hrows hfloat =>
    obtain ⟨input, reduction, hg, hr, hp, rfl⟩ := exists_input_of_agg hq hcast hlen
    obtain ⟨hinput⟩ := Outcome.optionMapM_eq_ok.1 hvalues
    rw [evaluateFully_input hp hrows hfloat] at hinput
    obtain ⟨s, hs, rfl⟩ := Outcome.map_eq_ok.1 hinput
    have hlist := AggFunction.isCollectList_request hr
    refine (AggRequest.agrees_reduceGroups hgroups.ne_nil hlist).congr fun i hi ↦ ?_
    -- the rows of a group are selected before the child is evaluated, or after
    have hsel := (hrows s hs).2 _ (hgroups.lt _ (hmem i hi)) (hgroups.rows_eq_zero _ (hmem i hi))
    rw [Expr.values_agg hg hr, hsel, Outcome.ok_bind, AggFunction.masked_select]
    rfl

end GroupBy

end Tabular
