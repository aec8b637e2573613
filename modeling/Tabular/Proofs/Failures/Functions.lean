import Tabular.Proofs.Failures.Kernels
import Tabular.Proofs.Types.Result

/-!
# Failures of functions

For each family of functions there is a table of the types over which its members are implemented
(`BooleanFunction.implements`, `StringFunction.implements`, `TemporalFunction.implements`,
`UnaryFunction.implements`, `AggFunction.implements`), and the proof that this table decides. The
tables speak of the types of the columns that a function gets, which need not be those that the
check of the node has seen.

That a table decides is read off the steps of the function. Steps that fail on data only add
nothing, and the steps that remain are casts, operators, and the functions that have no table in the
engine. Their conditions are about the type of an intermediate value, and it is here that a type has
to be known beforehand: a fold by a connective gives truth values after its first step
(`BooleanFunction.decidedBy_foldlM`), a component is an integer of 32 bits
(`Series.dtype_component`), and running totals keep the type of the accumulator
(`Series.dtype_scan`).

Checks matter in one way only. They count the children, and they find the literal arguments, so that
a function that has passed its check is never short of an argument
(`StringFunction.failsOnData_onSeries`).
-/

namespace Tabular

open Outcome

variable {d : DataType} {cs : List Expr} {s t : Series} {c : Column} {columns : List Column}

/-! ### Boolean results -/

/-- Whether a connective can work on the type. -/
def DataType.isConnectable (d : DataType) : Bool := d = .boolean || d.isInteger

namespace BooleanFunction

/-- Whether the function is implemented over children of the types. A connective of one column
leaves it as it is. -/
def implements : BooleanFunction → List DataType → Bool
  | allHorizontal, types => types.length = 1 || types.all DataType.isConnectable
  | anyHorizontal, types => types.length = 1 || types.all DataType.isConnectable
  | isBetween _, [t, lower, upper] =>
    (BinaryOp.comparison .le).supports .boolean t lower &&
      (BinaryOp.comparison .le).supports .boolean t upper
  | _, _ => true

/-- Whether the function gets truth values if it needs them. -/
def getsFlags : BooleanFunction → List DataType → Bool
  | any _, [t] => t = .boolean
  | all _, [t] => t = .boolean
  | not, [t] => t = .boolean
  | _, _ => true

/-- A column gives truth values if it is one of them, and there is nothing else to decide. -/
theorem decidedBy_flags (c : Column) : DecidedBy True (c.dtype = .boolean) c.flags := by
  unfold Column.flags Series.rowsAs?
  by_cases hc : c.series.dtype = .boolean
  · rw [dif_pos hc]
    exact .ok _ trivial hc
  · rw [dif_neg hc]
    exact ⟨nofun, nofun, fun _ _ ↦ hc, nofun⟩

/-- A connective takes what can be connected, on either side. -/
@[simp]
theorem supports_logical (connective : Connective) (l r : DataType) :
    (BinaryOp.logical connective).supports .boolean l r =
      (l.isConnectable && r.isConnectable) :=
  rfl

/-- Every step of a fold by a connective gives truth values, so that only the first one depends on
where it starts. -/
theorem decidedBy_foldlM (connective : Connective) (columns : List Column) (s : Series) :
    DecidedBy
      (∀ col ∈ columns, s.dtype.isConnectable = true ∧ col.dtype.isConnectable = true) True
      (columns.foldlM (fun total col ↦ total.combine (.logical connective) .boolean col.series)
        s) := by
  induction columns generalizing s with
  | nil => exact .ok _ nofun trivial
  | cons col rest ih =>
    have hrest (s' : Series)
        (hs' : s.combine (.logical connective) .boolean col.series = .ok s') :
        DecidedBy (∀ col ∈ rest, col.dtype.isConnectable = true) True _ :=
      (ih s').congr (by
        rw [Series.dtype_combine hs']
        exact forall₂_congr fun _ _ ↦ and_iff_right rfl) Iff.rfl
    refine ((Series.decidedBy_combine _ _ s col.series).bind hrest).congr ?_ (and_self_iff)
    rw [supports_logical, Bool.and_eq_true, List.forall_mem_cons]
    exact ⟨fun ⟨h, hrest⟩ ↦ ⟨h, fun x hx ↦ ⟨h.1, hrest x hx⟩⟩,
      fun ⟨h, hrest⟩ ↦ ⟨h, fun x hx ↦ (hrest x hx).2⟩⟩

/-- A connective over children has its table; a single child is passed on as it is. -/
theorem decidedBy_fold (connective : Connective) (hne : columns ≠ []) :
    DecidedBy (implements .allHorizontal (columns.map Column.dtype) = true) True
      (fold connective columns) := by
  match columns with
  | [col] => exact .ok _ rfl trivial
  | col :: col' :: rest =>
    refine (decidedBy_foldlM connective (col' :: rest) col.series).congr ?_ Iff.rfl
    have himplements : implements .allHorizontal ((col :: col' :: rest).map Column.dtype) =
        ((col :: col' :: rest).map Column.dtype).all DataType.isConnectable := by
      simp [implements]
    rw [himplements, List.all_map, List.all_eq_true]
    exact ⟨fun h ↦ List.forall_mem_cons.2 ⟨(h col' List.mem_cons_self).1, fun x hx ↦ (h x hx).2⟩,
      fun h x hx ↦ ⟨h col List.mem_cons_self, h x (List.mem_cons_of_mem _ hx)⟩⟩

/-- Both comparisons have to be in the table of operators. Their conjunction always is. -/
theorem decidedBy_between (closed : ClosedInterval) (s lower upper : Series) :
    DecidedBy (implements (.isBetween closed) [s.dtype, lower.dtype, upper.dtype] = true) True
      (between closed s lower upper) := by
  have hconnect {above below : Series} (habove : above.dtype = .boolean)
      (hbelow : below.dtype = .boolean) :
      FailsOnData (above.combine (.logical .kleeneAnd) .boolean below) :=
    (Series.decidedBy_combine _ _ _ _).failsOnData (by rw [habove, hbelow]; rfl) trivial
  refine ((Series.decidedBy_combine _ .boolean s lower).bind fun above habove ↦
    (Series.decidedBy_combine _ .boolean s upper).bind_data fun below hbelow ↦
      hconnect (Series.dtype_combine habove) (Series.dtype_combine hbelow)).congr ?_ (and_self_iff)
  rw [implements, Bool.and_eq_true]
  exact Iff.rfl

/-- The number of children that a function takes; connectives take any number but none. -/
def arity? : BooleanFunction → Option Nat
  | allHorizontal => none
  | anyHorizontal => none
  | isIn => some 2
  | isBetween _ => some 3
  | _ => some 1

/-- The check counts the children of a function that takes a fixed number. -/
theorem length_of_check {g : BooleanFunction} {n : Nat} (hn : g.arity? = some n)
    (h : g.check d cs = .ok ()) : cs.length = n := by
  obtain ⟨_, -, h⟩ := Outcome.bind_eq_ok.1 h
  cases g <;> cases hn
  case any | all | not | isIn =>
    obtain ⟨_, h, -⟩ := Outcome.bind_eq_ok.1 h
    exact checkArity_eq_ok.1 h
  all_goals exact checkArity_eq_ok.1 h

/-- No function passes its check without children. -/
theorem ne_nil_of_check {g : BooleanFunction} (h : g.check d cs = .ok ()) : cs ≠ [] := by
  rintro rfl
  obtain ⟨_, -, h⟩ := Outcome.bind_eq_ok.1 h
  cases g <;> cases h

theorem decidedBy_onColumns {g : BooleanFunction} (hcheck : g.check d cs = .ok ())
    (hlen : columns.length = cs.length) :
    DecidedBy (g.implements (columns.map Column.dtype) = true)
      (g.getsFlags (columns.map Column.dtype) = true) (g.onColumns columns) := by
  -- The check fixes how many children there are, and with it the branch of `onColumns`.
  have hne (hcs : cs ≠ []) : columns ≠ [] := by
    rintro rfl
    exact hcs (List.length_eq_zero_iff.1 hlen.symm)
  have hflags {c : Column} {value : List (Option Bool) → List (Option Bool)} :
      DecidedBy True ((c.dtype = .boolean : Bool) = true)
        (c.flags >>= fun flags ↦ .ok (Series.ofFlags (value flags))) :=
    ((decidedBy_flags c).bind_data fun _ _ ↦ .ok _).congr Iff.rfl decide_eq_true_iff.symm
  cases g with
  | allHorizontal | anyHorizontal =>
    exact (decidedBy_fold _ (hne (ne_nil_of_check hcheck))).congr Iff.rfl (by simp [getsFlags])
  | isIn =>
    obtain ⟨c, haystack, rfl⟩ := List.length_eq_two.1 (hlen.trans (length_of_check rfl hcheck))
    exact .of_data ((Series.failsOnData_isIn _ _).bind fun _ _ ↦ .ok _) rfl rfl
  | isBetween closed =>
    obtain ⟨c, lower, upper, rfl⟩ :=
      List.length_eq_three.1 (hlen.trans (length_of_check rfl hcheck))
    exact (decidedBy_between closed _ _ _).congr Iff.rfl (by simp [getsFlags])
  | any _ | all _ | not =>
    obtain ⟨c, rfl⟩ := List.length_eq_one_iff.1 (hlen.trans (length_of_check rfl hcheck))
    exact hflags.congr (by simp [implements]) Iff.rfl
  | isFinite | isInfinite =>
    obtain ⟨c, rfl⟩ := List.length_eq_one_iff.1 (hlen.trans (length_of_check rfl hcheck))
    exact .of_data ((c.failsOnData_test _).bind fun _ _ ↦ .ok _) rfl rfl
  | _ =>
    obtain ⟨c, rfl⟩ := List.length_eq_one_iff.1 (hlen.trans (length_of_check rfl hcheck))
    exact .ok _ rfl rfl

end BooleanFunction

/-! ### Text -/

namespace StringFunction

/-- Whether the function is implemented with the declared type `d`. -/
def implements (g : StringFunction) (d : DataType) : Bool :=
  d = .null || (g.resultType d).canCast d

/-- The arguments that the check asks for are there when the function needs them. -/
theorem failsOnData_onSeries {g : StringFunction} (hcheck : g.check cs = .ok ())
    (hkind : g.matchKind? = none) (s : Series) : FailsOnData (g.onSeries d cs s) := by
  cases g with
  | startsWith | endsWith => cases hkind
  | lowercase | uppercase | stripChars | stripCharsStart | stripCharsEnd =>
    exact Series.failsOnData_mapText _ _
  | contains literal strict =>
    cases literal with
    | true => cases hkind
    | false =>
      -- The check has found the pattern and compiled it, so only reading the rows can fail.
      obtain ⟨_, -, h⟩ := Outcome.bind_eq_ok.1 hcheck
      obtain ⟨_, -, h⟩ := Outcome.bind_eq_ok.1 h
      simp only [onSeries]
      split at h
      · cases h
      · next pattern hpattern =>
        obtain ⟨r, hr⟩ := Option.isSome_iff_exists.1 (requires_eq_ok.1 h)
        simp only [hpattern, Option.bind_some, hr]
        exact ((Series.failsOnData_textRows s).bind fun _ _ ↦ .ok _).bind fun _ _ ↦ .ok _
  | replace n literal =>
    -- The check has found the literals that the function looks for.
    obtain ⟨_, -, h⟩ := Outcome.bind_eq_ok.1 hcheck
    obtain ⟨_, -, h⟩ := Outcome.bind_eq_ok.1 h
    obtain ⟨_, -, h⟩ := Outcome.bind_eq_ok.1 h
    obtain ⟨htarget, hreplacement⟩ := (Bool.and_eq_true _ _).mp (requires_eq_ok.1 h)
    obtain ⟨target, htarget⟩ := Option.isSome_iff_exists.1 htarget
    obtain ⟨replacement, hreplacement⟩ := Option.isSome_iff_exists.1 hreplacement
    simp only [onSeries, htarget, hreplacement]
    exact Series.failsOnData_replace _ _ _ _
  | replaceMany ignoreCase =>
    obtain ⟨_, -, h⟩ := Outcome.bind_eq_ok.1 hcheck
    obtain ⟨_, -, h⟩ := Outcome.bind_eq_ok.1 h
    split at h
    · cases h
    · cases h
    · next targets replacements htargets hreplacements =>
      simp only [onSeries, htargets, hreplacements, Option.map_some]
      exact Series.failsOnData_replaceMany _ _ _
  | slice =>
    obtain ⟨_, -, h⟩ := Outcome.bind_eq_ok.1 hcheck
    obtain ⟨hoffset, -⟩ := (Bool.and_eq_true _ _).mp (requires_eq_ok.1 h)
    -- A literal that passes as an integer in the check is read as one in the evaluation.
    have hint : (((cs[1]?).bind Expr.literal?).bind Literal.asInt?).isSome = true := by
      cases hc : cs[1]? with
      | none => simp [hc] at hoffset
      | some c =>
        simp only [hc, Option.map_some, Option.getD_some, Expr.isIntLiteral] at hoffset
        split at hoffset
        · next v hv =>
          rw [Option.bind_some, hv]
          split at hoffset
          · cases hoffset
          · exact hoffset
        · cases hoffset
    obtain ⟨offset, hoffset⟩ := Option.isSome_iff_exists.1 hint
    simp only [onSeries, hoffset, Option.map_some]
    exact Series.failsOnData_mapText _ _
  | strptime format strict exact cache =>
    obtain ⟨_, -, h⟩ := Outcome.bind_eq_ok.1 hcheck
    obtain ⟨_, h, -⟩ := Outcome.bind_eq_ok.1 h
    obtain ⟨format, rfl⟩ := Option.isSome_iff_exists.1 (requires_eq_ok.1 h)
    exact (failsOnData_checkParsed _ _ _).bind fun _ _ ↦ Series.failsOnData_toTime _ _ _

theorem decidedBy_onColumns {g : StringFunction} (hcheck : g.check cs = .ok ())
    (hlen : columns.length = if g.matchKind?.isSome then 2 else 1) :
    DecidedBy (g.implements d = true) True (g.onColumns d cs (columns.map .ok)) := by
  have hcast {out : Series} (hout : out.dtype = g.resultType d) :
      DecidedBy (g.implements d = true) True (if d = .null then .ok out else out.cast d) := by
    split
    · next hd => exact .ok _ (by simp [implements, hd]) trivial
    · next hd =>
      exact (Series.decidedBy_cast hout d).congr (by simp [implements, hd]) Iff.rfl
  simp only [onColumns]
  cases hkind : g.matchKind? with
  | none =>
    rw [hkind] at hlen
    obtain ⟨c, rfl⟩ := List.length_eq_one_iff.1 hlen
    simp only [List.map_cons, Outcome.ok_bind]
    exact .data_bind (failsOnData_onSeries hcheck hkind _) fun _ hout ↦
      hcast (dtype_onSeries hout)
  | some kind =>
    rw [hkind] at hlen
    obtain ⟨c, needle, rfl⟩ := List.length_eq_two.1 hlen
    simp only [List.map_cons, Outcome.ok_bind]
    exact .data_bind (Series.failsOnData_matchText kind _ _) fun _ _ ↦
      hcast (resultType_of_matchKind hkind).symm

end StringFunction

/-! ### Dates and times -/

namespace TemporalFunction

/-- The type of the function before the cast to the declared type: components are of 32 bits, sums
of them of 64. -/
def resultType (g : TemporalFunction) : DataType :=
  match g.parts with
  | [_] => .integer .int32
  | _ => .int64

/-- Whether the function is implemented over type `t` with the declared type `d`. -/
def implements (g : TemporalFunction) (d t : DataType) : Bool :=
  g.isDefinedOver t && g.resultType.canCast d

end TemporalFunction

/-- A component of times is an integer of 32 bits. -/
theorem Series.dtype_component {part : DateComponent} (h : s.component part = .ok t) :
    t.dtype = .integer .int32 := by
  unfold component at h
  split at h
  · cases h
  · injection h with h
    exact h ▸ rfl
  · cases h

theorem Series.dtype_scan {op : Scan} (h : s.scan op = .ok t) : t.dtype = s.dtype := by
  unfold scan at h
  split at h
  · injection h with h
    exact h ▸ rfl
  · split at h
    · injection h with h
      exact h ▸ rfl
    · cases h
  · cases h

/-- Arithmetic of 64-bit integers is implemented. -/
theorem Series.failsOnData_combine_int64 (op : Arithmetic) (hs : s.dtype = .int64)
    (ht : t.dtype = .int64) : FailsOnData (s.combine (.arithmetic op) .int64 t) :=
  (decidedBy_combine _ _ _ _).failsOnData (by rw [hs, ht]; rfl) trivial

namespace TemporalFunction

variable {g : TemporalFunction}

theorem dtype_onSeries (h : g.onSeries s = .ok t) : t.dtype = g.resultType := by
  unfold onSeries at h
  split at h
  · next hparts => rw [Series.dtype_component h, resultType, hparts]
  · next hsingle =>
    have hresult : g.resultType = .int64 := by
      unfold resultType
      split
      · next hparts => exact (hsingle _ _ hparts).elim
      · rfl
    obtain ⟨components, -, h⟩ := Outcome.bind_eq_ok.1 h
    match components with
    | (first, scale) :: rest =>
      obtain ⟨start, hstart, h⟩ := Outcome.bind_eq_ok.1 h
      rw [hresult]
      refine Outcome.foldlM_induction (I := fun s ↦ s.dtype = .int64) h
        (Series.dtype_combine hstart) fun _ _ _ _ _ hstep ↦ ?_
      obtain ⟨_, _, hstep⟩ := Outcome.bind_eq_ok.1 hstep
      exact Series.dtype_combine hstep

theorem decidedBy_onSeries (g : TemporalFunction) (s : Series) :
    DecidedBy (g.isDefinedOver s.dtype = true) True (g.onSeries s) := by
  have hover : g.isDefinedOver s.dtype = true ↔
      ∀ p ∈ g.parts, s.dtype.hasComponent p.1 = true := by
    simp only [isDefinedOver, List.all_eq_true]
  rw [hover]
  unfold onSeries
  split
  · next part scale hparts =>
    exact (s.decidedBy_component part).congr (by simp [hparts]) Iff.rfl
  -- Several components are scaled and added up. Extracting one of them is all that can be
  -- unsupported.
  · refine (DecidedBy.bind_data (DecidedBy.mapM (p := fun p ↦ s.dtype.hasComponent p.1 = true)
      (q := fun _ ↦ True) ?_) fun components hcomponents ↦ ?_).congr Iff.rfl (by simp)
    · rintro ⟨part, scale⟩ -
      refine (s.decidedBy_component part).bind_data fun t ht ↦
        ((Series.decidedBy_cast (Series.dtype_component ht) .int64).failsOnData rfl trivial).bind
          fun _ _ ↦ .ok _
    -- Components are cast to `int64`, and over this type products and sums are implemented.
    · have hints : ∀ p ∈ components, p.1.dtype = .int64 ∧ p.2.dtype = .int64 := by
        intro p hp
        obtain ⟨⟨part, scale⟩, -, hp⟩ := Outcome.exists_of_mem_result hcomponents hp
        obtain ⟨_, -, hp⟩ := Outcome.bind_eq_ok.1 hp
        obtain ⟨_, hcast, hp⟩ := Outcome.bind_eq_ok.1 hp
        injection hp with hp
        exact hp ▸ ⟨Series.cast_dtype hcast, rfl⟩
      have hne : components ≠ [] :=
        Outcome.ne_nil_of_mapM hcomponents (by cases g <;> exact List.cons_ne_nil _ _)
      match components with
      | (first, scale) :: rest =>
        obtain ⟨⟨hfirst, hscale⟩, hrest⟩ := List.forall_mem_cons.1 hints
        refine (Series.failsOnData_combine_int64 .mul hfirst hscale).bind fun start hstart ↦
          .foldlM (I := fun s ↦ s.dtype = .int64) (Series.dtype_combine hstart) ?_ ?_
        · intro _ _ _ _ _ hstep
          obtain ⟨_, _, hstep⟩ := Outcome.bind_eq_ok.1 hstep
          exact Series.dtype_combine hstep
        · intro p hp total htotal
          obtain ⟨hpart, hscale⟩ := hrest p hp
          exact (Series.failsOnData_combine_int64 .mul hpart hscale).bind fun _ hscaled ↦
            Series.failsOnData_combine_int64 .add htotal (Series.dtype_combine hscaled)

end TemporalFunction

/-! ### One column -/

namespace UnaryFunction

/-- Whether running totals over type `t` are implemented with the declared type `d`. -/
def scans (op : Scan) (d t : DataType) : Bool :=
  (op.accumulator t).isNumeric && (op.accumulator t).canCast d

/-- Whether the function is implemented over type `t` with the declared type `d`. -/
def implements (g : UnaryFunction) (d t : DataType) : Bool :=
  match g with
  | math op => t.canCast d && op.isDefinedOver d
  | round _ => t.isNumeric
  | cumMin _ => scans .min d t
  | cumMax _ => scans .max d t
  | cumProd _ => scans .product d t
  | cumSum _ => scans .sum d t
  | _ => true

/-- Every type casts to the type in which its running totals are held. -/
@[simp]
theorem canCast_accumulator (op : Scan) (t : DataType) : t.canCast (op.accumulator t) = true := by
  unfold Scan.accumulator
  split <;> first | rfl | simp [DataType.canCast]

/-- Running totals are decided by the type that they are held in, and by the cast from it. -/
theorem decidedBy_running (op : Scan) (c : Column) :
    DecidedBy (scans op d c.dtype = true) True (onColumn.running d op c) := by
  refine .data_bind ((Series.decidedBy_cast rfl _).failsOnData (canCast_accumulator _ _) trivial)
    fun s hs ↦ ?_
  have hs : s.dtype = op.accumulator c.dtype := Series.cast_dtype hs
  refine ((s.decidedBy_scan op).bind fun t ht ↦
    (Series.decidedBy_cast ((Series.dtype_scan ht).trans hs) d).bind_data fun _ _ ↦ .ok _).congr
    ?_ and_self_iff
  rw [hs, scans, Bool.and_eq_true]

theorem decidedBy_onColumn {g : UnaryFunction} {outcomes : List (Outcome Column)}
    (hfiller : g = .fillNull → FailsOnData (filler c.dtype cs outcomes)) :
    DecidedBy (g.implements d c.dtype = true) True (g.onColumn d cs outcomes c) := by
  cases g with
  | math op =>
    have hmath {s : Series} (hs : s.dtype = d) :
        DecidedBy (op.isDefinedOver d = true) True (s.math op) := hs ▸ s.decidedBy_math op
    refine ((Series.decidedBy_cast rfl d).bind fun s hs ↦
      (hmath (Series.cast_dtype hs)).bind_data fun _ _ ↦ .ok _).congr ?_ and_self_iff
    rw [implements, Bool.and_eq_true]
    exact Iff.rfl
  | round decimals => exact (c.series.decidedBy_round decimals).bind_data fun _ _ ↦ .ok _
  | fillNull =>
    exact .of_data ((hfiller rfl).bind fun _ _ ↦
      (Series.failsOnData_fillNull _ _).bind fun _ _ ↦ .ok _) rfl trivial
  | cumMin _ | cumMax _ | cumProd _ | cumSum _ => exact decidedBy_running _ c
  | _ => exact .ok _ rfl trivial

end UnaryFunction

/-! ### Reductions -/

/-- Numbers of either precision that there is arithmetic for cast to the same types. -/
theorem DataType.canCast_float {t : FloatType} (ht : t.hasArithmetic = true) (d : DataType) :
    (float t).canCast d = float64.canCast d := by
  cases t with
  | half => cases ht
  | single | double =>
    cases d with
    | float t' => cases t' <;> rfl
    | _ => rfl

/-- NaNs are counted in columns of these numbers only. -/
theorem Column.exists_float (h : 0 < c.nanCount) :
    ∃ t, c.dtype = .float t ∧ t.hasArithmetic = true := by
  obtain ⟨⟨d, rows⟩, sorted⟩ := c
  cases d with
  | float t =>
    refine ⟨t, rfl, ?_⟩
    by_contra ht
    simp [nanCount, nanMask?, ht] at h
  | _ => exact absurd h (Nat.lt_irrefl 0)

namespace AggFunction

/-- The type of the reduction over type `t`, before the cast to the declared type. -/
def resultType (g : AggFunction) (t : DataType) : DataType :=
  match g with
  | min _ => t
  | max _ => t
  | first => t
  | last => t
  | sum => Aggregation.sum.resultType t
  | nUnique => .int64
  | count => .int64
  | _ => .float64

/-- Whether the reduction is implemented over type `t` with the declared type `d`. -/
def implements (g : AggFunction) (d t : DataType) : Bool :=
  (g ≠ .sum || t.hasSum) && (g.resultType t).canCast d

/-- A checked reduction has its request, with the type and the table of the reduction. -/
theorem exists_request {g : AggFunction} (hcheck : g.check cs = .ok ()) (t : DataType) :
    ∃ agg, g.request cs = .ok agg ∧ agg.resultType t = g.resultType t ∧
      agg.isDefinedOver t = (g ≠ .sum || t.hasSum) := by
  cases g with
  | quantile interpolation =>
    obtain ⟨_, hlen, h⟩ := Outcome.bind_eq_ok.1 hcheck
    obtain ⟨_, q, rfl⟩ := List.length_eq_two.1 (checkArity_eq_ok.1 hlen)
    obtain ⟨q', hq, -⟩ := Outcome.bind_eq_ok.1 h
    exact ⟨_, Outcome.bind_eq_ok.2 ⟨q', hq, rfl⟩, rfl, rfl⟩
  | _ => exact ⟨_, rfl, rfl, rfl⟩

theorem decidedBy_onColumn {g : AggFunction} (hcheck : g.check cs = .ok ()) (c : Column) :
    DecidedBy (g.implements d c.dtype = true) True (g.onColumn d cs c) := by
  unfold onColumn
  split
  · next hnan =>
    obtain ⟨hpropagates, hcount⟩ := (Bool.and_eq_true _ _).mp hnan
    obtain ⟨t, htype, ht⟩ := c.exists_float (of_decide_eq_true hcount)
    -- the NaN that stands for an extremum is cast like a number of the column
    have himplements : g.implements d c.dtype = DataType.float64.canCast d := by
      rw [htype, ← DataType.canCast_float ht]
      cases g <;> first | rfl | cases hpropagates
    rw [himplements]
    have hnumber : (Series.single .float64 (some (Binary.nan false))).dtype = .float64 := rfl
    exact (Series.decidedBy_cast hnumber d).bind_data fun _ _ ↦ .ok _
  · obtain ⟨agg, hagg, hresult, hover⟩ := exists_request hcheck c.dtype
    have hreduce {input : Series} (hinput : input.dtype = c.dtype) :
        DecidedBy (g.implements d c.dtype = true) True (input.reduce agg >>= fun s ↦
          s.cast d >>= fun s ↦ .ok ({ series := s } : Column)) := by
      have htype {s : Series} (hs : input.reduce agg = .ok s) :
          s.dtype = g.resultType c.dtype := by
        obtain ⟨_, rfl⟩ := Series.reduce_eq_ok hs
        rw [← hresult, ← hinput]
        rfl
      refine ((input.decidedBy_reduce agg).bind fun s hs ↦
        (Series.decidedBy_cast (htype hs) d).bind_data fun _ _ ↦ .ok _).congr ?_ and_self_iff
      rw [hinput, hover, implements, Bool.and_eq_true]
    rw [hagg]
    refine hreduce ?_
    split
    · exact (congrArg Series.dtype c.series_maskNans).trans (Series.dtype_maskNans _)
    · rfl

end AggFunction

end Tabular
