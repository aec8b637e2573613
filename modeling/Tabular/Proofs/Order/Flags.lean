import Tabular.Proofs.Expr.Values
import Tabular.Proofs.Order.Sorted

/-!
# Claims of sortedness

A column may claim to be sorted. `Column.Truthful` says that the claim holds of its series. A sort
and a node that sets the claim make one; dropping nulls, filters, rounding, unique rows and leaving
out NaNs pass on the claim of their column; all other operations make none. So a truthful frame
gives truthful columns (`Expr.truthful_evaluate`), as long as claims are set on columns that are
monotone as they say.

Passing on a claim needs a reason, and there are two of them. Rows that were left out do not disturb
those that remain, which stay in their order (`Series.SortedAs.sublist`); and what was rounded may
only pass for itself, so that floating-point numbers are excepted (`Expr.RoundsNoFloats`). What one
node does to the claims of its children is `Expr.truthful_evaluateNode`, and the rest is induction
over the tree.

Casts are left out: they pass on the claim of their column, whether or not its order survives the
conversion.
-/

namespace Tabular

/-- What the column claims of its order is true. -/
def Column.Truthful (c : Column) : Prop := ∀ claim, c.sorted = some claim → c.series.SortedAs claim

/-- The columns of the frame are sorted as they claim to be. -/
def Frame.Truthful (f : Frame) : Prop := ∀ c ∈ f.columns, c.column.Truthful

/-- In a series that holds a value the marks say which rows are null. -/
theorem UnaryFunction.endsInNull_iff {s : Series} (v : s.dtype.Value) :
    endsInNull s = true ↔ s.rows.getLast? = some none := by
  obtain ⟨d, rows⟩ := s
  have hmarked : (⟨d, rows⟩ : Series).marked = rows.map Option.isSome := by
    cases d with
    | null => exact nomatch v
    | _ => rfl
  rw [endsInNull, decide_eq_true_eq, hmarked, List.getLast?_map]
  cases rows.getLast? with
  | none => simp
  | some row => cases row <;> simp

/-- Numbers that are not floating point are round. -/
theorem Series.round_eq_self {s t : Series} {decimals : Nat} (hd : s.dtype.isFloating = false)
    (h : s.round decimals = .ok t) : t = s := by
  obtain ⟨d, rows⟩ := s
  cases d with
  | integer t =>
    injection h with h
    exact h.symm
  | float t => cases hd
  | _ => cases h

namespace Column

variable {c : Column}

/-- Without a claim there is nothing to be true. -/
theorem truthful_of_none (h : c.sorted = none) : c.Truthful := by
  intro claim hclaim
  rw [h] at hclaim
  cases hclaim

/-- Most operations give a series and make no claim. -/
theorem truthful_of_plain {x : Outcome Series}
    (h : (x >>= fun s ↦ .ok ({ series := s } : Column)) = .ok c) : c.Truthful := by
  obtain ⟨s, -, h⟩ := Outcome.bind_eq_ok.1 h
  injection h with h
  exact truthful_of_none (h ▸ rfl)

/-- A claim is passed on truthfully by what keeps sorted series sorted. -/
theorem Truthful.sortedLike (h : c.Truthful) {s : Series}
    (hs : ∀ claim, c.series.SortedAs claim → s.SortedAs claim) :
    (({ series := s } : Column).sortedLike c).Truthful :=
  fun claim hclaim ↦ hs claim (h claim hclaim)

/-- Leaving out NaNs keeps the claim only if there are none. -/
theorem Truthful.maskNans (h : c.Truthful) : c.maskNans.Truthful := by
  unfold Column.maskNans
  split
  · exact h
  · split
    · exact truthful_of_none rfl
    · exact h

/-- The nulls of a column that is monotone as claimed stand where its last row tells. -/
theorem truthful_setSorted {descending first : Bool}
    (h : c.series.Monotone (.ofKey ⟨descending, UnaryFunction.endsInNull c.series⟩) first) :
    ({ c with sorted := some (.ofKey ⟨descending, UnaryFunction.endsInNull c.series⟩) } :
      Column).Truthful := by
  intro claim hclaim
  injection hclaim with hclaim
  subst hclaim
  refine h.sortedAs fun hnull ⟨v, hv⟩ ↦ ?_
  obtain ⟨nulls, values, hrows, -⟩ := h
  rw [hrows, none_mem_withNulls] at hnull
  rw [hrows, some_mem_withNulls] at hv
  have hends := UnaryFunction.endsInNull_iff v
  rw [hrows, getLast?_withNulls hnull (List.ne_nil_of_mem hv)] at hends
  have hfirst : (Sortedness.ofKey ⟨descending, UnaryFunction.endsInNull c.series⟩).nullsFirst =
      !UnaryFunction.endsInNull c.series := SortKey.nullsFirst_nullOrder _
  rw [hfirst]
  cases first <;> cases hlast : UnaryFunction.endsInNull c.series <;> simp_all

end Column

namespace UnaryFunction

variable {f : UnaryFunction} {d : DataType} {children : List Expr}
  {columns : List (Outcome Column)} {c t : Column}

/-- A function of one column makes a true claim of its result if the claim of the column is true. -/
theorem truthful_onColumn (hc : c.Truthful)
    (hround : ∀ decimals, f = .round decimals → c.dtype.isFloating = false)
    (hset : ∀ descending, f = .setSorted descending →
      ∃ first, c.series.Monotone (.ofKey ⟨descending, endsInNull c.series⟩) first)
    (h : f.onColumn d children columns c = .ok t) : t.Truthful := by
  cases f with
  | math op =>
    obtain ⟨_, _, h⟩ := Outcome.bind_eq_ok.1 h
    exact Column.truthful_of_plain h
  -- Leaving rows out cannot break the order of the others.
  | dropNulls =>
    injection h with h
    exact h ▸ hc.sortedLike fun _ ↦ Series.SortedAs.dropNulls
  | fillNull =>
    obtain ⟨_, _, h⟩ := Outcome.bind_eq_ok.1 h
    exact Column.truthful_of_plain h
  | maskNans =>
    injection h with h
    exact h ▸ hc.maskNans
  -- Rounding keeps the flag while it changes values, but outside the floats it changes none.
  | round decimals =>
    obtain ⟨s, hs, h⟩ := Outcome.bind_eq_ok.1 h
    injection h with h
    obtain rfl := Series.round_eq_self (hround decimals rfl) hs
    exact h ▸ hc
  | setSorted descending =>
    injection h with h
    obtain ⟨first, hmono⟩ := hset descending rfl
    exact h ▸ Column.truthful_setSorted hmono
  | unique maintainOrder =>
    injection h with h
    subst h
    split
    · exact hc.sortedLike fun _ ↦ Series.SortedAs.unique
    · exact Column.truthful_of_none rfl
  | cumMin _ | cumMax _ | cumProd _ | cumSum _ =>
    obtain ⟨_, _, h⟩ := Outcome.bind_eq_ok.1 h
    obtain ⟨_, _, h⟩ := Outcome.bind_eq_ok.1 h
    exact Column.truthful_of_plain h

end UnaryFunction

/-- Reductions make no claim. -/
theorem AggFunction.truthful_onColumn {f : AggFunction} {d : DataType} {children : List Expr}
    {c t : Column} (h : f.onColumn d children c = .ok t) : t.Truthful := by
  unfold onColumn at h
  split at h
  · exact Column.truthful_of_plain h
  · obtain ⟨_, _, h⟩ := Outcome.bind_eq_ok.1 h
    obtain ⟨_, _, h⟩ := Outcome.bind_eq_ok.1 h
    exact Column.truthful_of_plain h

/-- The rows that a filter keeps are in their order. -/
theorem Column.truthful_filterColumn {values mask t : Column} (hvalues : values.Truthful)
    (h : Kind.filterColumn values mask = .ok t) : t.Truthful := by
  rw [Kind.filterColumn_eq_bind] at h
  obtain ⟨mask, -, h⟩ := Outcome.bind_eq_ok.1 h
  split at h
  · obtain ⟨s, hs, h⟩ := Outcome.bind_eq_ok.1 h
    injection h with h
    exact h ▸ hvalues.sortedLike fun _ hclaim ↦ hclaim.keep hs
  · cases h

/-- A kind that looks at all its children makes a true claim of its value if it is no cast and the
claims of the children are true. -/
theorem Kind.truthful_onColumns {k : Kind} {d : DataType} {columns : List Column} {t : Column}
    (hcast : k ≠ .cast) (hcolumns : ∀ c ∈ columns, c.Truthful) (h : k.onColumns d columns = .ok t) :
    t.Truthful := by
  unfold onColumns at h
  split at h
  · obtain ⟨_, _, h⟩ := Outcome.bind_eq_ok.1 h
    exact Column.truthful_of_plain h
  · next options c =>
    obtain ⟨s, hs, h⟩ := Outcome.bind_eq_ok.1 h
    injection h with h
    subst h
    rintro _ ⟨⟩
    exact Series.sortedAs_sort hs
  · exact Column.truthful_of_plain h
  · exact Column.truthful_of_plain h
  · next values mask =>
    exact Column.truthful_filterColumn (hcolumns values List.mem_cons_self) h
  · exact absurd rfl hcast
  · exact Column.truthful_of_plain h
  · exact Column.truthful_of_plain h
  · cases h

namespace Expr

variable {f : Frame} {e : Expr}

/-- The expression rounds no column of floating-point numbers. -/
def RoundsNoFloats (f : Frame) (e : Expr) : Prop :=
  ∀ x ∈ e.nodes, ∀ decimals c cs, x.kind = .unaryFunction (.round decimals) → x.children = c :: cs →
    ∀ col, c.evaluate f .frame .empty = .ok col → col.dtype.isFloating = false

/-- Where the expression sets the claim of a column, the column is monotone in the direction that
is claimed, and its nulls stand together at one of the ends. -/
def SetsSorted (f : Frame) (e : Expr) : Prop :=
  ∀ x ∈ e.nodes, ∀ descending c cs, x.kind = .unaryFunction (.setSorted descending) →
    x.children = c :: cs → ∀ col, c.evaluate f .frame .empty = .ok col →
      ∃ first, col.series.Monotone
        (.ofKey ⟨descending, UnaryFunction.endsInNull col.series⟩) first

/-- **What one node does to the claims of its children**: if they are true, so is its own. -/
theorem truthful_evaluateNode {context : Context} {d : DataType} {k : Kind} {cs : List Expr}
    {columns : List (Outcome Column)} {c : Column} (hf : f.Truthful) (hcast : k ≠ .cast)
    (hcolumns : ∀ col, .ok col ∈ columns → col.Truthful)
    (hround : ∀ decimals col rest, k = .unaryFunction (.round decimals) →
      columns = .ok col :: rest → col.dtype.isFloating = false)
    (hset : ∀ descending col rest, k = .unaryFunction (.setSorted descending) →
      columns = .ok col :: rest →
        ∃ first, col.series.Monotone
          (.ofKey ⟨descending, UnaryFunction.endsInNull col.series⟩) first)
    (h : evaluateNode f context d k cs columns = .ok c) : c.Truthful := by
  -- Most kinds of nodes evaluate all their children first; those columns are truthful.
  have hall {columns' : List Column} (h : columns.mapM id = .ok columns') :
      ∀ col ∈ columns', col.Truthful := fun col hcol ↦ by
    obtain ⟨_, hmem, rfl⟩ := Outcome.exists_of_mem_result h hcol
    exact hcolumns col hmem
  cases k with
  | literal v => exact Column.truthful_of_plain h
  | literalColumn stored => exact Column.truthful_of_plain h
  | col name => exact hf _ (Frame.column_eq_ok h)
  | len => exact Column.truthful_of_plain h
  | booleanFunction g =>
    simp only [evaluateNode] at h
    split at h
    · obtain ⟨_, _, h⟩ := Outcome.bind_eq_ok.1 h
      exact Column.truthful_of_plain h
    -- The children need not be looked at, and the constant rows carry no flag.
    · injection h with h
      exact Column.truthful_of_none (h ▸ rfl)
  | stringFunction g => exact Column.truthful_of_plain h
  | unaryFunction g =>
    rcases columns with _ | ⟨_ | col, rest⟩
    · cases h
    · cases h
    · exact UnaryFunction.truthful_onColumn (hcolumns col List.mem_cons_self)
        (fun decimals hg ↦ hround decimals col rest (hg ▸ rfl) rfl)
        (fun descending hg ↦ hset descending col rest (hg ▸ rfl) rfl) h
  | agg g =>
    simp only [evaluateNode] at h
    split at h
    · rcases columns with _ | ⟨col, rest⟩
      · cases h
      · obtain ⟨_, _, h⟩ := Outcome.bind_eq_ok.1 h
        exact AggFunction.truthful_onColumn h
    · cases h
  | cast => exact absurd rfl hcast
  | _ =>
    obtain ⟨columns', hcolumns', h⟩ := Outcome.bind_eq_ok.1 h
    exact Kind.truthful_onColumns hcast (hall hcolumns') h

/-- **The claims that an expression makes are true**, if those of the frame are. The expression has
no casts, rounds no floating-point numbers and sets claims only where they hold up to the place of
nulls, which it finds out by itself. -/
theorem truthful_evaluate (hf : f.Truthful) (hcast : ∀ x ∈ e.nodes, x.kind ≠ .cast)
    (hround : e.RoundsNoFloats f) (hset : e.SetsSorted f) {c : Column}
    (hc : e.evaluate f .frame .empty = .ok c) : c.Truthful := by
  induction e using Expr.induction generalizing c with
  | node d k cs ih =>
    have hself : node d k cs ∈ (node d k cs).nodes := mem_nodes_self _
    have hchild {x child : Expr} (hmem : child ∈ cs) (hx : x ∈ child.nodes) :
        x ∈ (node d k cs).nodes := mem_nodes_node.2 (.inr ⟨child, hmem, hx⟩)
    rw [evaluate, Mapping.find?_empty, evaluateAll_eq_map] at hc
    refine truthful_evaluateNode hf (hcast _ hself) (fun col hcol ↦ ?_)
      (fun decimals col rest hk hcols ↦ ?_) (fun descending col rest hk hcols ↦ ?_) hc
    · obtain ⟨child, hmem, hcol⟩ := List.mem_map.1 hcol
      exact ih child hmem (fun x hx ↦ hcast x (hchild hmem hx))
        (fun x hx ↦ hround x (hchild hmem hx)) (fun x hx ↦ hset x (hchild hmem hx)) hcol
    · obtain ⟨child, cs, rfl, hcol, -⟩ := List.map_eq_cons_iff.1 hcols
      exact hround _ hself decimals child cs hk rfl col hcol
    · obtain ⟨child, cs, rfl, hcol, -⟩ := List.map_eq_cons_iff.1 hcols
      exact hset _ hself descending child cs hk rfl col hcol

/-- Times in ascending order, after one that is missing. -/
def times : Column :=
  { series := ⟨.int64, [none, some 1, some 2, some 2].map fun i ↦ i.map (FixedInt.wrap .int64)⟩
    sorted := some ⟨.ascending, .before⟩ }

/-- The frame of the times. -/
def timesFrame : Frame := ⟨[⟨"time", times⟩], rfl⟩

/-- The times, said once more to ascend. -/
def ascendingTimes : Expr :=
  node .int64 (.unaryFunction (.setSorted false)) [node .int64 (.col "time") []]

/-- The distinct times. -/
def distinctTimes : Expr := node .int64 (.unaryFunction (.unique false)) [ascendingTimes]

/-- The three nodes of the distinct times. -/
theorem mem_nodes_distinctTimes {x : Expr} : x ∈ distinctTimes.nodes ↔
    x = distinctTimes ∨ x = ascendingTimes ∨ x = node .int64 (.col "time") [] := by
  simp [distinctTimes, ascendingTimes, nodes, nodesAll]

/-- The times are what the column claims. -/
theorem truthful_timesFrame : timesFrame.Truthful := by
  refine List.forall_mem_singleton.2 ?_
  rintro _ ⟨⟩
  decide

/-- They ascend, as is said once more. -/
theorem setsSorted_distinctTimes : distinctTimes.SetsSorted timesFrame := by
  intro x hx descending c cs hkind hcs col hcol
  obtain rfl | rfl | rfl := mem_nodes_distinctTimes.1 hx
  · cases hkind
  · injection hkind with hkind
    injection hkind with hkind
    injection hcs with hc
    subst hkind hc
    injection hcol with hcol
    subst hcol
    exact ⟨true, 1, [1, 2, 2].map (FixedInt.wrap .int64), rfl, by decide⟩
  · cases hkind

/-- The distinct times ascend, one of them missing. -/
theorem truthful_evaluate_distinctTimes :
    timesFrame.Truthful ∧ (∀ x ∈ distinctTimes.nodes, x.kind ≠ .cast) ∧
      distinctTimes.RoundsNoFloats timesFrame ∧ distinctTimes.SetsSorted timesFrame ∧
      ∃ c, distinctTimes.evaluate timesFrame .frame .empty = .ok c ∧ c.sorted = times.sorted ∧
        c.length = 3 ∧ c.Truthful := by
  have hcast : ∀ x ∈ distinctTimes.nodes, x.kind ≠ .cast := by
    intro x hx
    obtain rfl | rfl | rfl := mem_nodes_distinctTimes.1 hx <;> nofun
  have hround : distinctTimes.RoundsNoFloats timesFrame := by
    intro x hx decimals c cs hkind
    obtain rfl | rfl | rfl := mem_nodes_distinctTimes.1 hx <;> cases hkind
  refine ⟨truthful_timesFrame, hcast, hround, setsSorted_distinctTimes, _, rfl, rfl, rfl, ?_⟩
  exact truthful_evaluate truthful_timesFrame hcast hround setsSorted_distinctTimes rfl

end Expr

end Tabular
