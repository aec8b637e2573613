import Tabular.Expr.Evaluate
import Tabular.Proofs.Expr.Nodes
import Tabular.Proofs.Outcome

/-!
# The values of expressions

Evaluation gives a column, which is a series with a claim about its order. `Expr.values` keeps the
series alone. For nodes that are not known beforehand, the values of a node are those of its
children with the node's operation applied; one equation for each kind of node says so, and later
proofs use these equations instead of unfolding the evaluator.

The equations have the condition that the node is not in the mapping. Over a frame nothing is, and
they hold as they stand (`Mapping.find?_empty`); over the results of a grouping it is the condition
that has to be shown.
-/

namespace Tabular

/-- The series with its NaNs replaced by nulls. -/
def Series.maskNans (s : Series) : Series := (Column.maskNans { series := s }).series

/-- Replacing NaNs in a column and in its series is the same; only the claim about the order
differs. -/
@[simp]
theorem Column.series_maskNans (c : Column) : c.maskNans.series = c.series.maskNans := by
  have hcount : c.nanCount = Column.nanCount { series := c.series } := rfl
  unfold Series.maskNans Column.maskNans
  rw [hcount]
  split
  · rfl
  · obtain ⟨⟨d, rows⟩, sorted⟩ := c
    cases d <;> rfl

/-- A filter first spreads its mask, if need be, and then keeps rows. -/
theorem Kind.filterColumn_eq_bind (values mask : Column) : filterColumn values mask =
    (if mask.isScalar && !values.isScalar then mask.series.broadcast values.length
      else .ok mask.series) >>= fun mask ↦
      match mask.rowsAs? .boolean with
      | some flags =>
        values.series.keep flags >>= fun s ↦ .ok (({ series := s } : Column).sortedLike values)
      | none => invalid .filterMask := by
  unfold filterColumn
  split <;> rfl

/-- Nothing is known beforehand in the empty mapping. -/
@[simp]
theorem Mapping.find?_empty (e : Expr) : Mapping.empty.find? e = none :=
  rfl

/-- What a function does to the series of its column, for the functions that look at one row at a
time: `d` is the declared type. A claim about the order of the rows is no matter of the series. -/
def UnaryFunction.rowKernel? (d : DataType) : UnaryFunction → Option (Series → Outcome Series)
  | math op => some fun s ↦ s.cast d >>= fun s ↦ s.math op
  | maskNans => some fun s ↦ .ok s.maskNans
  | round decimals => some fun s ↦ s.round decimals
  | setSorted _ => some .ok
  | _ => none

namespace Expr

/-- The series that the expression has over a frame. -/
def values (fr : Frame) (context : Context) (m : Mapping) (e : Expr) : Outcome Series :=
  (e.evaluate fr context m).map Column.series

variable {fr : Frame} {context : Context} {m : Mapping} {d : DataType}

/-- The values of an expression are those of its column. -/
theorem values_eq_ok {e : Expr} {s : Series} :
    e.values fr context m = .ok s ↔ ∃ c, e.evaluate fr context m = .ok c ∧ c.series = s :=
  Outcome.map_eq_ok

/-- An expression has a column exactly if it has values. -/
theorem exists_evaluate_eq_ok {e : Expr} :
    (∃ c, e.evaluate fr context m = .ok c) ↔ ∃ s, e.values fr context m = .ok s := by
  simp [values_eq_ok]

theorem evaluateAll_eq_map (cs : List Expr) :
    evaluateAll fr context m cs = cs.map (evaluate fr context m) := by
  induction cs with
  | nil => rfl
  | cons c cs ih => rw [evaluateAll, ih, List.map_cons]

/-- A node that is known beforehand is not evaluated. -/
theorem values_of_find?_eq_some {e : Expr} {c : Column} (h : m.find? e = some c) :
    e.values fr context m = .ok c.series := by
  cases e with
  | node d k cs => rw [values, evaluate, h]; rfl

/-- A node that is not known beforehand has the value of its kind on its children. -/
theorem values_node {k : Kind} {cs : List Expr} (h : m.find? (node d k cs) = none) :
    (node d k cs).values fr context m =
      (evaluateNode fr context d k cs (cs.map (evaluate fr context m))).map Column.series := by
  rw [values, evaluate, h, evaluateAll_eq_map]

/-- A node that looks at all its children, which have columns. -/
theorem evaluate_node_of_columns {k : Kind} {cs : List Expr} {columns : List Column}
    (hk : ∀ columns, evaluateNode fr context d k cs columns = columns.mapM id >>= k.onColumns d)
    (h : m.find? (node d k cs) = none)
    (hcolumns : List.Forall₂ (fun e c ↦ e.evaluate fr context m = .ok c) cs columns) :
    (node d k cs).evaluate fr context m = k.onColumns d columns := by
  have hall : (cs.map (evaluate fr context m)).mapM id = .ok columns :=
    Outcome.mapM_eq_ok.2 (List.forall₂_map_left_iff.2 hcolumns)
  rw [evaluate, h, evaluateAll_eq_map]
  simp only [hk, hall, Outcome.ok_bind]

/-- **A node that looks at all its children** has the value of its kind on their columns. -/
theorem evaluate_node_eq_ok {k : Kind} {cs : List Expr} {c : Column}
    (hk : ∀ columns, evaluateNode fr context d k cs columns = columns.mapM id >>= k.onColumns d)
    (h : m.find? (node d k cs) = none) :
    (node d k cs).evaluate fr context m = .ok c ↔
      ∃ columns, List.Forall₂ (fun e c ↦ e.evaluate fr context m = .ok c) cs columns ∧
        k.onColumns d columns = .ok c := by
  rw [evaluate, h, evaluateAll_eq_map]
  simp only [hk, Outcome.bind_eq_ok, Outcome.mapM_eq_ok, List.forall₂_map_left_iff, id]

/-- A literal has one row. -/
theorem values_literal {v : Literal} (h : m.find? (node d (.literal v) []) = none) :
    (node d (.literal v) []).values fr context m = v.toSeries d := by
  rw [values_node h]
  simp only [evaluateNode]
  cases v.toSeries d <;> rfl

/-- A literal column has the stored rows, cast to the declared type. -/
theorem values_literalColumn {stored : StoredSeries}
    (h : m.find? (node d (.literalColumn stored) []) = none) :
    (node d (.literalColumn stored) []).values fr context m = stored.series.cast d := by
  rw [values_node h]
  simp only [evaluateNode]
  cases stored.series.cast d <;> rfl

/-- A column is looked up by its name. -/
theorem values_col {name : String} {cs : List Expr}
    (h : m.find? (node d (.col name) cs) = none) :
    (node d (.col name) cs).values fr context m = (fr.column name).map Column.series :=
  values_node h

/-- The number of rows, in the declared type. -/
theorem values_len {cs : List Expr} (h : m.find? (node d .len cs) = none) :
    (node d .len cs).values fr context m = (Series.ofInt fr.rows).cast d := by
  rw [values_node h]
  simp only [evaluateNode]
  cases (Series.ofInt fr.rows).cast d <;> rfl

/-- A cast converts the values of its child. -/
theorem values_cast {c : Expr} (h : m.find? (node d .cast [c]) = none) :
    (node d .cast [c]).values fr context m = c.values fr context m >>= fun s ↦ s.cast d := by
  rw [values_node h, values]
  show (([c.evaluate fr context m].mapM id) >>= Kind.onColumns .cast d).map Column.series = _
  cases c.evaluate fr context m with
  | error e => rfl
  | ok c' =>
    show ((c'.series.cast d) >>= _).map Column.series = c'.series.cast d
    cases c'.series.cast d <;> rfl

/-- An operator combines the values of its children. -/
theorem values_binOp {op : BinaryOp} {l r : Expr}
    (h : m.find? (node d (.binOp op) [l, r]) = none) :
    (node d (.binOp op) [l, r]).values fr context m =
      l.values fr context m >>= fun s ↦ r.values fr context m >>= fun t ↦ s.combine op d t := by
  rw [values_node h, values, values]
  show (([l.evaluate fr context m, r.evaluate fr context m].mapM id) >>=
    Kind.onColumns (.binOp op) d).map Column.series = _
  cases l.evaluate fr context m with
  | error e => rfl
  | ok l' =>
    cases r.evaluate fr context m with
    | error e => rfl
    | ok r' =>
      show ((l'.series.combine op d r'.series) >>= _).map Column.series =
        l'.series.combine op d r'.series
      cases l'.series.combine op d r'.series <;> rfl

/-- A function of one column whose series depends on the series alone. -/
theorem values_function {f : UnaryFunction} {c : Expr} {cs : List Expr}
    (h : m.find? (node d (.unaryFunction f) (c :: cs)) = none) {k : Series → Outcome Series}
    (hk : ∀ col, (f.onColumn d (c :: cs) ((c :: cs).map (evaluate fr context m)) col).map
      Column.series = k col.series) :
    (node d (.unaryFunction f) (c :: cs)).values fr context m = c.values fr context m >>= k := by
  rw [values_node h, values]
  show (c.evaluate fr context m >>= f.onColumn d (c :: cs) _).map Column.series = _
  cases c.evaluate fr context m with
  | error e => rfl
  | ok col => exact hk col

/-- A function of one column that works row by row does to the series what `rowKernel?` says. -/
theorem values_rowFunction {f : UnaryFunction} {k : Series → Outcome Series} {c : Expr}
    (hk : f.rowKernel? d = some k) (h : m.find? (node d (.unaryFunction f) [c]) = none) :
    (node d (.unaryFunction f) [c]).values fr context m = c.values fr context m >>= k := by
  refine values_function h fun col ↦ ?_
  cases f <;> cases hk <;> simp only [UnaryFunction.onColumn]
  case math op =>
    cases col.series.cast d with
    | error e => rfl
    | ok s => cases hs : s.math op <;> simp only [Outcome.ok_bind, hs] <;> rfl
  case maskNans => exact congrArg Except.ok (Column.series_maskNans col)
  case round decimals => cases col.series.round decimals <;> rfl
  case setSorted => rfl

/-- The series that nulls in a column of type `d` are filled from: a literal takes that type. -/
def fillerValues (fr : Frame) (context : Context) (m : Mapping) (filler : Expr) (d : DataType) :
    Outcome Series :=
  match filler.literal? with
  | some v => v.toSeries d
  | none => filler.values fr context m

/-- Nulls are filled from the values of the second child. -/
theorem values_fillNull {c filler : Expr}
    (h : m.find? (node d (.unaryFunction .fillNull) [c, filler]) = none) :
    (node d (.unaryFunction .fillNull) [c, filler]).values fr context m =
      c.values fr context m >>= fun s ↦ filler.fillerValues fr context m s.dtype >>= fun t ↦
        s.fillNull t := by
  refine values_function h fun col ↦ ?_
  have hfiller : UnaryFunction.filler col.dtype [c, filler]
      ([c, filler].map (evaluate fr context m)) =
        filler.fillerValues fr context m col.series.dtype := by
    unfold UnaryFunction.filler fillerValues
    simp only [List.getElem?_cons_succ, List.getElem?_cons_zero, Option.bind_some, List.map_cons]
    cases filler.literal? with
    | some v => rfl
    | none =>
      rw [values]
      cases filler.evaluate fr context m <;> rfl
  simp only [UnaryFunction.onColumn, hfiller]
  cases filler.fillerValues fr context m col.series.dtype with
  | error e => rfl
  | ok t => cases hs : col.series.fillNull t <;> simp only [Outcome.ok_bind, hs] <;> rfl

/-- A cast whose children are evaluated has one child. -/
theorem exists_of_values_cast {cs : List Expr} {s : Series}
    (h : m.find? (node d .cast cs) = none) (hs : (node d .cast cs).values fr context m = .ok s) :
    ∃ c t, cs = [c] ∧ c.values fr context m = .ok t ∧ t.cast d = .ok s := by
  match cs with
  | [] =>
    rw [values_node h] at hs
    cases hs
  | [c] =>
    rw [values_cast h] at hs
    obtain ⟨t, ht, hs⟩ := Outcome.bind_eq_ok.1 hs
    exact ⟨c, t, rfl, ht, hs⟩
  | c :: c' :: cs =>
    rw [values_node h] at hs
    obtain ⟨col, hcol, -⟩ := Outcome.map_eq_ok.1 hs
    obtain ⟨columns, hcolumns, hcol⟩ := Outcome.bind_eq_ok.1 hcol
    have hlen := (Outcome.mapM_eq_ok.1 hcolumns).length_eq
    match columns, hlen with
    | _ :: _ :: _, _ => cases hcol

end Expr

end Tabular
