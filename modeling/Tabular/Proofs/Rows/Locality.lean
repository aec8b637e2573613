import Tabular.Proofs.Rows.Functions

/-!
# Locality of rows

The expressions whose value in a row depends on that row alone, `Expr.RowWise`, are those put
together from columns and literals by operations that look at one row at a time. Such an expression
agrees with its rows (`Expr.RowWise.agrees`), whatever shortcut a kernel takes for the column as a
whole: no nulls, no NaNs, a single row that stands for all, equal lengths, or a declared type that
settles the answer. The proof is an induction over the tree with one lemma for each of the
operations.

So rows can be selected before or after the expression is evaluated, in any order and with
repetitions (`Expr.RowWise.select_evaluate`). Its value need not have a row for each row of the
frame. A single row stands for all, and the comparison is of the values at full length.
-/

namespace Tabular

/-- Boolean functions of single rows look at the series of columns alone. -/
theorem BooleanFunction.onColumns_series {g : BooleanFunction} (hg : g.isRowWise = true)
    (columns : List Column) :
    g.onColumns (columns.map fun c ↦ { series := c.series }) = g.onColumns columns := by
  have hfold (c : Connective) : fold c (columns.map fun c ↦ { series := c.series }) =
      fold c columns := by
    cases columns with
    | nil => rfl
    | cons first rest => simp only [fold, List.map_cons, List.foldlM_map]
  cases g with
  | allHorizontal => exact hfold .kleeneAnd
  | anyHorizontal => exact hfold .kleeneOr
  | isBetween closed =>
    rcases columns with _ | ⟨_, _ | ⟨_, _ | ⟨_, _ | ⟨_, _⟩⟩⟩⟩ <;> rfl
  | isNull | isNotNull | isNan | isNotNan | isFinite | isInfinite | not =>
    rcases columns with _ | ⟨_, _ | ⟨_, _⟩⟩ <;> rfl
  | _ => cases hg

namespace Expr

variable {fr : Frame} {context : Context} {m : Mapping} {d : DataType}

/-! ### Values of nodes with several children -/

/-- Evaluated children, if only their series matter for what follows. -/
theorem mapM_evaluate {cs : List Expr} {k : List Column → Outcome Column}
    {K : List Series → Outcome Series}
    (hk : ∀ columns, (k columns).map Column.series = K (columns.map Column.series)) :
    ((cs.map (evaluate fr context m)).mapM id >>= k).map Column.series =
      cs.mapM (values fr context m) >>= K := by
  induction cs generalizing k K with
  | nil => exact hk []
  | cons c cs ih =>
    simp only [List.map_cons, List.mapM_cons, bind_assoc, pure_bind, values, id_eq]
    cases c.evaluate fr context m with
    | error e => rfl
    | ok col => exact ih fun columns ↦ hk (col :: columns)

/-- The value of a function of times, from that of its child. -/
theorem values_temporal {f : TemporalFunction} {c : Expr}
    (h : m.find? (node d (.temporalFunction f) [c]) = none) :
    (node d (.temporalFunction f) [c]).values fr context m =
      c.values fr context m >>= fun s ↦ f.onSeries s >>= fun t ↦ t.cast d := by
  rw [values_node h, values]
  show (([c.evaluate fr context m].mapM id) >>= Kind.onColumns (.temporalFunction f) d).map
    Column.series = _
  cases c.evaluate fr context m with
  | error e => rfl
  | ok c' =>
    show (Kind.onColumns (.temporalFunction f) d [c']).map Column.series =
      f.onSeries c'.series >>= fun t ↦ t.cast d
    simp only [Kind.onColumns]
    cases f.onSeries c'.series with
    | error e => rfl
    | ok t => cases ht : t.cast d <;> simp only [Outcome.ok_bind, ht] <;> rfl

/-- The value of a choice, from those of its children. -/
theorem values_ternary {mask truthy falsy : Expr}
    (h : m.find? (node d .ternary [mask, truthy, falsy]) = none) :
    (node d .ternary [mask, truthy, falsy]).values fr context m =
      mask.values fr context m >>= fun s ↦ truthy.values fr context m >>= fun t ↦
        falsy.values fr context m >>= fun u ↦ Series.choose s t u := by
  rw [values_node h]
  simp only [values]
  show (([mask.evaluate fr context m, truthy.evaluate fr context m,
    falsy.evaluate fr context m].mapM id) >>= Kind.onColumns .ternary d).map Column.series = _
  cases mask.evaluate fr context m with
  | error e => rfl
  | ok c =>
    cases truthy.evaluate fr context m with
    | error e => rfl
    | ok c' =>
      cases falsy.evaluate fr context m with
      | error e => rfl
      | ok c'' =>
        show (Series.choose c.series c'.series c''.series >>= _).map Column.series =
          Series.choose c.series c'.series c''.series
        cases Series.choose c.series c'.series c''.series <;> rfl

/-- A Boolean function of single rows has the value that it has on the series of its children, or
the constant that their types settle. -/
theorem values_boolean {g : BooleanFunction} (hg : g.isRowWise = true) {cs : List Expr}
    (h : m.find? (node d (.booleanFunction g) cs) = none) :
    (node d (.booleanFunction g) cs).values fr context m =
      if cs.all fun c ↦ g.readsChild c.dtype then
        cs.mapM (values fr context m) >>= fun ss ↦ g.onColumns (ss.map fun s ↦ { series := s })
      else .ok (g.constant fr.rows) := by
  rw [values_node h]
  simp only [evaluateNode]
  split
  · refine mapM_evaluate (k := fun columns ↦ g.onColumns columns >>= fun s ↦ .ok { series := s })
      fun columns ↦ ?_
    rw [List.map_map, Function.comp_def, BooleanFunction.onColumns_series hg]
    cases g.onColumns columns <;> rfl
  · rfl

/-! ### Expressions that look at one row at a time -/

/-- The expression is put together from columns and literals by operations row by row. Nulls are
filled from a literal. -/
inductive RowWise : Expr → Prop
  | col {d : DataType} {name : String} : RowWise (node d (.col name) [])
  | literal {d : DataType} {v : Literal} : RowWise (node d (.literal v) [])
  | cast {d : DataType} {c : Expr} : RowWise c → RowWise (node d .cast [c])
  | binOp {d : DataType} {op : BinaryOp} {l r : Expr} :
      RowWise l → RowWise r → RowWise (node d (.binOp op) [l, r])
  | ternary {d : DataType} {mask truthy falsy : Expr} :
      RowWise mask → RowWise truthy → RowWise falsy →
      RowWise (node d .ternary [mask, truthy, falsy])
  | boolean {d : DataType} {g : BooleanFunction} {cs : List Expr} : g.isRowWise = true →
      (∀ c ∈ cs, RowWise c) → RowWise (node d (.booleanFunction g) cs)
  | temporal {d : DataType} {f : TemporalFunction} {c : Expr} :
      RowWise c → RowWise (node d (.temporalFunction f) [c])
  /-- Elementary functions, rounding and leaving out NaNs. -/
  | function {d : DataType} {f : UnaryFunction} {k : Series → Outcome Series} {c : Expr} :
      f.rowKernel? d = some k → RowWise c → RowWise (node d (.unaryFunction f) [c])
  | fillNull {d d' : DataType} {v : Literal} {c : Expr} : RowWise c →
      RowWise (node d (.unaryFunction .fillNull) [c, node d' (.literal v) []])

variable {f : Frame} {e : Expr}

/-- A test that is settled by the declared type answers alike in every row. -/
theorem agrees_constant (g : BooleanFunction) (f : Frame) :
    Agrees f.rows (.ok (g.constant f.rows)) fun i ↦ .ok (g.constant (f.select [i]).rows) := by
  have hfits : Fits (g.constant f.rows).rows f.rows := .inl List.length_replicate
  refine (Agrees.of_fits hfits).congr fun i hi ↦ ?_
  obtain ⟨x, hx⟩ := hfits.exists_rowAt hi
  have hrows : (f.select [i]).rows = 1 := Frame.rows_select fun j hj ↦ List.mem_singleton.1 hj ▸ hi
  obtain rfl : x = some (g == .isFinite) := List.eq_of_mem_replicate (List.mem_of_getElem? hx)
  rw [Series.pick_eq hx, hrows]
  rfl

/-- **A row-wise expression agrees with its rows.** -/
theorem RowWise.agrees (hpos : 0 < f.rows) (h : e.RowWise) :
    Agrees f.rows (e.values f .frame .empty) fun i ↦ e.values (f.select [i]) .frame .empty := by
  -- Each operator needs its own reason to agree with its rows: casts and functions work row by row,
  -- operators pair rows up, and a choice or a list of operands combines any number of them.
  induction h with
  | col => exact agrees_column hpos ⟨_, _, _, rfl⟩
  | literal =>
    simp only [values_literal (Mapping.find?_empty _)]
    exact .const hpos (fun s ↦ Literal.length_toSeries) fun _ _ ↦ rfl
  | cast _ ih =>
    simp only [values_cast (Mapping.find?_empty _)]
    exact ih.bind_elementwise (Series.elementwise_cast _) hpos
  | binOp _ _ ihl ihr =>
    simp only [values_binOp (Mapping.find?_empty _)]
    exact ihl.bind_pairwise ihr (Series.pairwise_combine _ _) hpos
  | ternary _ _ _ ihm iht ihf =>
    simp only [values_ternary (Mapping.find?_empty _)]
    exact ihm.bind fun s hs ↦ iht.bind fun t ht ↦ ihf.bind fun u hu ↦
      Series.agrees_choose hpos (ihm.fits hs) (iht.fits ht) (ihf.fits hu)
  | @boolean d g cs hg _ ih =>
    simp only [values_boolean hg (Mapping.find?_empty _)]
    -- Without children to look at the flags are constant, whichever rows there are.
    by_cases hread : (cs.all fun c ↦ g.readsChild c.dtype) = true
    · simp only [if_pos hread]
      refine Agrees.bind_mapM ih fun ss hss ↦ ?_
      simp only [List.map_map]
      exact BooleanFunction.agrees_onColumns hg hpos (fits_of_mapM ih hss)
    · simp only [if_neg hread]
      exact agrees_constant g f
  | temporal _ ih =>
    simp only [values_temporal (Mapping.find?_empty _)]
    refine ih.bind fun s hs ↦ ?_
    exact (TemporalFunction.agrees_onSeries _ hpos (ih.fits hs)).bind_elementwise
      (Series.elementwise_cast _) hpos
  | function hk _ ih =>
    simp only [values_rowFunction hk (Mapping.find?_empty _)]
    exact ih.bind_elementwise (Series.elementwise_rowKernel hk) hpos
  | @fillNull d d' v c _ ih =>
    simp only [values_fillNull (Mapping.find?_empty _)]
    exact ih.bind_elementwise
      (Series.elementwise_fillNull v.toSeries fun _ _ ↦ Literal.length_toSeries) hpos

end Expr

end Tabular
