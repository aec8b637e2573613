import Tabular.Proofs.Rows.Operators

/-!
# Expressions row by row

`Expr.RowTree base` describes the expressions that operations row by row put together from single
values and from expressions of some kind `base`. What agrees on a whole and on its parts for the
expressions of that kind does so for all of these trees (`Expr.RowTree.agrees`).

With columns for `base` the parts are the rows of a frame, and the agreement says that such a tree
can be evaluated before or after rows are selected (`Expr.RowTree.values_select`). With requests for
`base` they are the groups of a grouping, and the same lemma says that an expression over results
agrees with itself over the groups. A tree over columns has the type it declares, if its parts do
(`Expr.RowTree.dtype_values`).

It is part of the description whether a tree varies. One that does not has the same single row over
every frame (`Expr.RowTree.values_const`, `Expr.RowTree.length_const`) and may stand where an
operation asks for a single value, as in the place from which nulls are filled. One that does has a
row for every place (`Expr.RowTree.length_eq`).
-/

namespace Tabular

/-- The kinds whose value is computed from the values of the children alone. -/
def Kind.isOperation : Kind → Bool
  | literal _ => true
  | literalColumn _ => true
  | cast => true
  | unaryFunction _ => true
  | binOp _ => true
  | _ => false

namespace Expr

/-- `RowTree base varying e`: operations row by row put `e` together from single values and from
expressions of the kind `base`. It is varying if there are any of the latter, as there must be below
a binary operation. -/
inductive RowTree (base : Expr → Prop) : Bool → Expr → Prop
  | base {e : Expr} : base e → RowTree base true e
  | literal {d : DataType} {v : Literal} : RowTree base false (node d (.literal v) [])
  | literalColumn {d : DataType} {stored : StoredSeries} : stored.series.length = 1 →
      RowTree base false (node d (.literalColumn stored) [])
  | cast {varying : Bool} {d : DataType} {c : Expr} :
      RowTree base varying c → RowTree base varying (node d .cast [c])
  | function {varying : Bool} {d : DataType} {f : UnaryFunction} {k : Series → Outcome Series}
      {c : Expr} : f.rowKernel? d = some k → RowTree base varying c →
      RowTree base varying (node d (.unaryFunction f) [c])
  /-- Nulls are filled from a single value. -/
  | fillNull {varying : Bool} {d : DataType} {c filler : Expr} :
      RowTree base varying c → RowTree base false filler →
      RowTree base varying (node d (.unaryFunction .fillNull) [c, filler])
  | binOp {left right : Bool} {d : DataType} {op : BinaryOp} {l r : Expr} :
      RowTree base left l → RowTree base right r → (left || right) = true →
      RowTree base true (node d (.binOp op) [l, r])

variable {base base' : Expr → Prop} {varying : Bool} {e : Expr}

/-- A tree over some expressions is one over more of them. -/
theorem RowTree.mono (hbase : ∀ x, base x → base' x) (h : RowTree base varying e) :
    RowTree base' varying e := by
  induction h with
  | base hx => exact .base (hbase _ hx)
  | literal => exact .literal
  | literalColumn hlen => exact .literalColumn hlen
  | cast _ ih => exact .cast ih
  | function hk _ ih => exact .function hk ih
  | fillNull _ _ ihc ihf => exact .fillNull ihc ihf
  | binOp _ _ hor ihl ihr => exact .binOp ihl ihr hor

/-- Without leaves of the base, a tree is one over any base. -/
theorem RowTree.const_base (base' : Expr → Prop) (h : RowTree base false e) :
    RowTree base' false e := by
  generalize hfalse : false = varying at h
  induction h with
  | base | binOp => cases hfalse
  | literal => exact .literal
  | literalColumn hlen => exact .literalColumn hlen
  | cast _ ih => exact .cast (ih hfalse)
  | function hk _ ih => exact .function hk (ih hfalse)
  | fillNull _ _ ihc ihf => exact .fillNull (ihc hfalse) (ihf rfl)

end Expr

/-- The mapping knows none of the operations of trees over `base`; it may know their leaves. -/
def Mapping.MissesOperations (m : Mapping) (base : Expr → Prop) : Prop :=
  ∀ x varying, Expr.RowTree base varying x → x.kind.isOperation = true → m.find? x = none

/-- The empty mapping knows nothing. -/
theorem Mapping.missesOperations_empty (base : Expr → Prop) : empty.MissesOperations base :=
  fun x _ _ _ ↦ find?_empty x

theorem Literal.length_toSeries {v : Literal} {d : DataType} {s : Series}
    (h : v.toSeries d = .ok s) : s.length = 1 := by
  unfold toSeries at h
  split at h
  · injection h with h
    exact h ▸ rfl
  · next s₀ hs₀ =>
    split at h
    · next s₁ hs₁ =>
      injection h with h
      subst h
      have hlen : s₀.length = 1 := by
        cases v <;> cases hs₀ <;> rfl
      exact (Series.elementwise_cast d).length_eq_one hlen hs₁
    · cases h

/-- It has the type that it was cast to. -/
theorem Literal.dtype_toSeries {v : Literal} {d : DataType} {s : Series}
    (hs : v.toSeries d = .ok s) : s.dtype = d := by
  unfold toSeries at hs
  split at hs
  · injection hs with hs
    exact hs ▸ rfl
  · split at hs
    · next hcast =>
      injection hs with hs
      exact hs ▸ Series.cast_dtype hcast
    · cases hs

namespace Expr

variable {base : Expr → Prop} {varying : Bool} {e : Expr} {fr fr' : Frame}
  {context context' : Context} {m m' : Mapping} {n : Nat} {s : Series}

/-! ### Constant trees -/

/-- Nulls are filled from a single row if the filler has one. -/
theorem length_fillerValues {filler : Expr} {d : DataType}
    (h : ∀ {s}, filler.values fr context m = .ok s → s.length = 1)
    (hs : filler.fillerValues fr context m d = .ok s) : s.length = 1 := by
  unfold fillerValues at hs
  split at hs
  · exact Literal.length_toSeries hs
  · exact h hs

/-- Filling nulls from a single value works row by row. -/
theorem elementwise_fillFrom {filler : Expr}
    (h : ∀ {s}, filler.values fr context m = .ok s → s.length = 1) :
    Series.Elementwise fun s ↦ filler.fillerValues fr context m s.dtype >>= fun t ↦
      s.fillNull t :=
  Series.elementwise_fillNull (filler.fillerValues fr context m)
    fun _ _ hs ↦ length_fillerValues h hs

/-- Without leaves of the base, a tree has the same value over every frame. -/
theorem RowTree.values_const (h : RowTree base false e) (hm : m.MissesOperations base)
    (hm' : m'.MissesOperations base) :
    e.values fr context m = e.values fr' context' m' := by
  generalize hfalse : false = varying at h
  induction h with
  | base | binOp => cases hfalse
  | literal =>
    rw [values_literal (hm _ _ .literal rfl), values_literal (hm' _ _ .literal rfl)]
  | literalColumn hlen =>
    rw [values_literalColumn (hm _ _ (.literalColumn hlen) rfl),
      values_literalColumn (hm' _ _ (.literalColumn hlen) rfl)]
  | cast hc ih =>
    rw [values_cast (hm _ _ (.cast hc) rfl), values_cast (hm' _ _ (.cast hc) rfl), ih hfalse]
  | function hk hc ih =>
    rw [values_rowFunction hk (hm _ _ (.function hk hc) rfl),
      values_rowFunction hk (hm' _ _ (.function hk hc) rfl), ih hfalse]
  | @fillNull _ _ _ filler hc hf ihc ihf =>
    rw [values_fillNull (hm _ _ (.fillNull hc hf) rfl),
      values_fillNull (hm' _ _ (.fillNull hc hf) rfl), ihc hfalse]
    unfold fillerValues
    cases filler.literal? with
    | some v => rfl
    | none => rw [ihf rfl]

/-- And this value is a single row. -/
theorem RowTree.length_const (h : RowTree base false e) (hm : m.MissesOperations base)
    (hs : e.values fr context m = .ok s) : s.length = 1 := by
  -- The index has to be a variable for the induction; the rules for varying trees fall away.
  generalize hfalse : false = varying at h
  induction h generalizing s with
  | base | binOp => cases hfalse
  | literal =>
    rw [values_literal (hm _ _ .literal rfl)] at hs
    exact Literal.length_toSeries hs
  | literalColumn hlen =>
    rw [values_literalColumn (hm _ _ (.literalColumn hlen) rfl)] at hs
    exact (Series.elementwise_cast _).length_eq_one hlen hs
  | cast hc ih =>
    rw [values_cast (hm _ _ (.cast hc) rfl)] at hs
    obtain ⟨s₀, hs₀, hs⟩ := Outcome.bind_eq_ok.1 hs
    exact (Series.elementwise_cast _).length_eq_one (ih hs₀ hfalse) hs
  | function hk hc ih =>
    rw [values_rowFunction hk (hm _ _ (.function hk hc) rfl)] at hs
    obtain ⟨s₀, hs₀, hs⟩ := Outcome.bind_eq_ok.1 hs
    exact (Series.elementwise_rowKernel hk).length_eq_one (ih hs₀ hfalse) hs
  | fillNull hc hf ihc ihf =>
    rw [values_fillNull (hm _ _ (.fillNull hc hf) rfl)] at hs
    obtain ⟨s₀, hs₀, hs⟩ := Outcome.bind_eq_ok.1 hs
    exact (elementwise_fillFrom fun hs ↦ ihf hs rfl).length_eq_one (ihc hs₀ hfalse) hs

/-! ### Agreement -/

/-- **A tree agrees on the whole and on its parts** if its leaves do. The whole may look leaves up
in a mapping; the parts are evaluated over frames of their own. -/
theorem RowTree.agrees {parts : Nat → Frame} (hn : 0 < n) (hm : m.MissesOperations base)
    (hbase : ∀ x, base x →
      Agrees n (x.values fr context m) fun i ↦ x.values (parts i) .frame .empty)
    (h : RowTree base varying e) :
    Agrees n (e.values fr context m) fun i ↦ e.values (parts i) .frame .empty := by
  induction h with
  | base hx => exact hbase _ hx
  | literal =>
    exact .const hn (fun s ↦ length_const .literal hm) fun i _ ↦
      values_const .literal (Mapping.missesOperations_empty base) hm
  | literalColumn hlen =>
    exact .const hn (fun s ↦ length_const (.literalColumn hlen) hm) fun i _ ↦
      values_const (.literalColumn hlen) (Mapping.missesOperations_empty base) hm
  | cast hc ih =>
    simp only [values_cast (hm _ _ (.cast hc) rfl), values_cast (Mapping.find?_empty _)]
    exact ih.bind_elementwise (Series.elementwise_cast _) hn
  | function hk hc ih =>
    simp only [values_rowFunction hk (hm _ _ (.function hk hc) rfl),
      values_rowFunction hk (Mapping.find?_empty _)]
    exact ih.bind_elementwise (Series.elementwise_rowKernel hk) hn
  | @fillNull _ _ _ filler hc hf ih _ =>
    -- the parts are filled from the value that the whole is filled from
    have hfiller (i : Nat) (d : DataType) : filler.fillerValues (parts i) .frame .empty d =
        filler.fillerValues fr context m d := by
      unfold fillerValues
      rw [hf.values_const (Mapping.missesOperations_empty base) hm]
    simp only [values_fillNull (hm _ _ (.fillNull hc hf) rfl),
      values_fillNull (Mapping.find?_empty _), hfiller]
    exact ih.bind_elementwise (elementwise_fillFrom fun hs ↦ hf.length_const hm hs) hn
  | binOp hl hr hor ihl ihr =>
    simp only [values_binOp (hm _ _ (.binOp hl hr hor) rfl), values_binOp (Mapping.find?_empty _)]
    exact ihl.bind_pairwise ihr (Series.pairwise_combine _ _) hn

/-- A varying tree has a row for every place if its leaves have. -/
theorem RowTree.length_eq {parts : Nat → Frame} (hn : 0 < n) (hm : m.MissesOperations base)
    (hbase : ∀ x, base x →
      Agrees n (x.values fr context m) fun i ↦ x.values (parts i) .frame .empty)
    (hlen : ∀ x s, base x → x.values fr context m = .ok s → s.length = n)
    (h : RowTree base true e) (hs : e.values fr context m = .ok s) : s.length = n := by
  generalize htrue : true = varying at h
  induction h generalizing s with
  | base hx => exact hlen _ _ hx hs
  | literal | literalColumn => cases htrue
  | cast hc ih =>
    rw [values_cast (hm _ _ (.cast hc) rfl)] at hs
    obtain ⟨s₀, hs₀, hs⟩ := Outcome.bind_eq_ok.1 hs
    have hne := ((hc.agrees hn hm hbase).fits hs₀).ne_nil hn
    exact ((Series.elementwise_cast _).length_eq hne hs).trans (ih hs₀ htrue)
  | function hk hc ih =>
    rw [values_rowFunction hk (hm _ _ (.function hk hc) rfl)] at hs
    obtain ⟨s₀, hs₀, hs⟩ := Outcome.bind_eq_ok.1 hs
    have hne := ((hc.agrees hn hm hbase).fits hs₀).ne_nil hn
    exact ((Series.elementwise_rowKernel hk).length_eq hne hs).trans (ih hs₀ htrue)
  | fillNull hc hf ih _ =>
    rw [values_fillNull (hm _ _ (.fillNull hc hf) rfl)] at hs
    obtain ⟨s₀, hs₀, hs⟩ := Outcome.bind_eq_ok.1 hs
    have hne := ((hc.agrees hn hm hbase).fits hs₀).ne_nil hn
    exact ((elementwise_fillFrom fun hs ↦ hf.length_const hm hs).length_eq hne hs).trans
      (ih hs₀ htrue)
  | @binOp left right _ _ _ _ hl hr hor ihl ihr =>
    rw [values_binOp (hm _ _ (.binOp hl hr hor) rfl)] at hs
    obtain ⟨s₁, hs₁, hs⟩ := Outcome.bind_eq_ok.1 hs
    obtain ⟨s₂, hs₂, hs⟩ := Outcome.bind_eq_ok.1 hs
    refine (Series.pairwise_combine _ _).length_eq ((hl.agrees hn hm hbase).fits hs₁)
      ((hr.agrees hn hm hbase).fits hs₂) hn ?_ hs
    -- one of the operands is varying, and the other fits it
    cases left with
    | true => exact .inl (ihl hs₁ rfl)
    | false => exact .inr (ihr hs₂ hor.symm)

/-! ### Trees over columns -/

/-- The expression is a column of the frame. -/
def IsColumn (e : Expr) : Prop := ∃ d name cs, e = node d (.col name) cs

/-- A column has a row for each row of the frame, and its rows are selected with those. -/
theorem values_column {f : Frame} {e : Expr} (he : e.IsColumn)
    (hs : e.values f .frame .empty = .ok s) :
    s.length = f.rows ∧
      ∀ places, e.values (f.select places) .frame .empty = .ok (s.select places) := by
  obtain ⟨d, name, cs, rfl⟩ := he
  rw [values_col (Mapping.find?_empty _)] at hs
  obtain ⟨c, hc, rfl⟩ := Outcome.map_eq_ok.1 hs
  refine ⟨Frame.length_eq_rows (Frame.column_eq_ok hc), fun places ↦ ?_⟩
  rw [values_col (Mapping.find?_empty _), Frame.column_select, hc]
  rfl

/-- A column that a selection has the frame has too. -/
theorem exists_values_column {f : Frame} {e : Expr} (he : e.IsColumn) {places : List Nat}
    (hs : ∃ s, e.values (f.select places) .frame .empty = .ok s) :
    ∃ s, e.values f .frame .empty = .ok s := by
  obtain ⟨d, name, cs, rfl⟩ := he
  obtain ⟨s, hs⟩ := hs
  rw [values_col (Mapping.find?_empty _), Frame.column_select] at hs
  obtain ⟨_, hs, -⟩ := Outcome.map_eq_ok.1 hs
  obtain ⟨c, hc, -⟩ := Outcome.map_eq_ok.1 hs
  rw [values_col (Mapping.find?_empty _), hc]
  exact ⟨_, rfl⟩

/-- A column agrees with its rows. -/
theorem agrees_column {f : Frame} (hpos : 0 < f.rows) {e : Expr} (he : e.IsColumn) :
    Agrees f.rows (e.values f .frame .empty) fun i ↦ e.values (f.select [i]) .frame .empty where
  fits hs := .inl (values_column he hs).1
  pick {s} hs i hi := by
    obtain ⟨hlen, hsel⟩ := values_column he hs
    rw [hsel, Series.pick_eq_select (hlen ▸ hi)]
  complete h := exists_values_column he (h 0 hpos)

/-- A varying tree over columns has a row for each row of the frame. -/
theorem RowTree.length_column {f : Frame} (hpos : 0 < f.rows) (h : RowTree IsColumn true e)
    (hs : e.values f .frame .empty = .ok s) : s.length = f.rows :=
  h.length_eq hpos (Mapping.missesOperations_empty _) (fun _ ↦ agrees_column hpos)
    (fun _ _ hx hs ↦ (values_column hx hs).1) hs

/-- **Rows can be selected before or after** a tree over columns is evaluated. -/
theorem RowTree.values_select {f : Frame} {places : List Nat} (hne : places ≠ [])
    (hplaces : ∀ i ∈ places, i < f.rows) (h : RowTree IsColumn true e)
    (hs : e.values f .frame .empty = .ok s) :
    e.values (f.select places) .frame .empty = .ok (s.select places) := by
  have hpos : 0 < f.rows := by
    obtain ⟨i, hi⟩ := List.exists_mem_of_ne_nil _ hne
    exact Nat.zero_lt_of_lt (hplaces i hi)
  have hrows := Frame.rows_select hplaces
  have hpos' : 0 < (f.select places).rows := hrows ▸ List.length_pos_iff.2 hne
  have hmiss := Mapping.missesOperations_empty IsColumn
  -- each row of the selection has the value that this row has in the frame
  have hrow (j : Nat) (hj : j < places.length) :
      e.values ((f.select places).select [j]) .frame .empty = .ok (s.select [places[j]]) := by
    have hlt := hplaces _ (List.getElem_mem hj)
    have hlen := h.length_column hpos hs
    rw [Frame.select_select hj,
      (h.agrees hpos hmiss fun _ ↦ agrees_column hpos).pick hs _ hlt,
      Series.pick_eq_select (hlen ▸ hlt)]
  -- so the selection can be evaluated, and its value has these rows
  have hagrees := h.agrees hpos' hmiss fun _ ↦ agrees_column hpos'
  obtain ⟨t, ht⟩ := hagrees.complete fun j hj ↦ ⟨_, hrow j (hrows ▸ hj)⟩
  have hlen : t.length = places.length := (h.length_column hpos' ht).trans hrows
  rw [ht, Series.eq_select hne hlen fun j hj ↦ ?_]
  have hpick := hagrees.pick ht j (hrows ▸ hj)
  rw [hrow j hj, Series.pick_eq_select (hlen ▸ hj)] at hpick
  injection hpick with hpick
  exact hpick.symm

/-- Functions of one column that keep its type are declared with it. Elementary functions declare
the type they are computed in. -/
def KeepsTypes (e : Expr) : Prop :=
  ∀ x ∈ e.nodes, ∀ f c cs, x.kind = .unaryFunction f → (∀ op, f ≠ .math op) → x.children = c :: cs →
    x.dtype = c.dtype

/-- A node keeps types if its function does and its children do. -/
theorem keepsTypes_node {d : DataType} {k : Kind} {cs : List Expr} : (node d k cs).KeepsTypes ↔
    (∀ f c cs', k = .unaryFunction f → (∀ op, f ≠ .math op) → cs = c :: cs' → d = c.dtype) ∧
      ∀ c ∈ cs, c.KeepsTypes := by
  simp only [KeepsTypes, mem_nodes_node, forall_eq_or_imp, forall_exists_index, and_imp]
  exact and_congr_right fun _ ↦ ⟨fun h c hc x hx ↦ h x c hc hx, fun h x c hc hx ↦ h c hc x hx⟩

theorem KeepsTypes.child {d : DataType} {k : Kind} {cs : List Expr}
    (h : (node d k cs).KeepsTypes) {c : Expr} (hc : c ∈ cs) : c.KeepsTypes :=
  (keepsTypes_node.1 h).2 c hc

/-- Nodes that are no functions of one column are of any type. -/
theorem KeepsTypes.node {d : DataType} {k : Kind} {cs : List Expr}
    (hk : ∀ f, k ≠ .unaryFunction f) (hcs : ∀ c ∈ cs, c.KeepsTypes) : (node d k cs).KeepsTypes :=
  keepsTypes_node.2 ⟨fun f _ _ hf ↦ absurd hf (hk f), hcs⟩

/-- **A tree over columns has the type it declares**, if the columns have and functions that keep
a type declare it. -/
theorem RowTree.dtype_values {f : Frame} (h : RowTree IsColumn varying e) (hkeep : e.KeepsTypes)
    (hdeclares : f.Declares e) (hs : e.values f .frame .empty = .ok s) : s.dtype = e.dtype := by
  induction h generalizing s with
  | base hx =>
    obtain ⟨d, name, cs, rfl⟩ := hx
    rw [values_col (Mapping.find?_empty _)] at hs
    obtain ⟨c, hc, rfl⟩ := Outcome.map_eq_ok.1 hs
    exact hdeclares _ (mem_nodes_self _) name rfl c hc
  | literal =>
    rw [values_literal (Mapping.find?_empty _)] at hs
    exact Literal.dtype_toSeries hs
  | literalColumn =>
    rw [values_literalColumn (Mapping.find?_empty _)] at hs
    exact Series.cast_dtype hs
  | cast =>
    rw [values_cast (Mapping.find?_empty _)] at hs
    obtain ⟨_, _, hs⟩ := Outcome.bind_eq_ok.1 hs
    exact Series.cast_dtype hs
  | function hk _ ih =>
    rw [values_rowFunction hk (Mapping.find?_empty _)] at hs
    obtain ⟨s₀, hs₀, hs⟩ := Outcome.bind_eq_ok.1 hs
    have hchild := ih (hkeep.child List.mem_cons_self) (hdeclares.child List.mem_cons_self) hs₀
    -- A function gives a row of its declared type, but for those that keep the type of their child.
    -- There `KeepsTypes` says that the two are the same.
    rcases Series.dtype_rowKernel hk hs with hd | ⟨hmath, hd⟩
    · exact hd
    · exact hd.trans (hchild.trans (hkeep _ (mem_nodes_self _) _ _ _ rfl hmath rfl).symm)
  | fillNull _ _ ih _ =>
    rw [values_fillNull (Mapping.find?_empty _)] at hs
    obtain ⟨s₀, hs₀, hs⟩ := Outcome.bind_eq_ok.1 hs
    obtain ⟨_, _, hs⟩ := Outcome.bind_eq_ok.1 hs
    have hchild := ih (hkeep.child List.mem_cons_self) (hdeclares.child List.mem_cons_self) hs₀
    have hself := hkeep _ (mem_nodes_self _) _ _ _ rfl nofun rfl
    exact (Series.dtype_fillNull hs).trans (hchild.trans hself.symm)
  | binOp =>
    rw [values_binOp (Mapping.find?_empty _)] at hs
    obtain ⟨_, _, hs⟩ := Outcome.bind_eq_ok.1 hs
    obtain ⟨_, _, hs⟩ := Outcome.bind_eq_ok.1 hs
    exact Series.dtype_combine hs

end Expr

end Tabular
