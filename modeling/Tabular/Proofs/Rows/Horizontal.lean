import Tabular.Proofs.Failures.Functions
import Tabular.Proofs.Failures.Lengths
import Tabular.Proofs.Rows.Connectives
import Tabular.Proofs.Rows.Functions

/-!
# Connectives of columns

A connective of any number of columns is a fold that starts from the first column as it is. A step
takes the truth values of two columns, with the single row of one repeated for the rows of the other
one. So at every place the fold joins the truth values that the columns have there
(`Series.truthAt`, `Series.JoinsAt`), as if it had taken them all at once, and the order of the
columns is no matter of it. What a step does is `Series.JoinsAt.combine`, and what the run does
`Series.JoinsAt.foldlM`.

Two things can go wrong. A single column takes part in no step, so that integers stay what they are
instead of turning into truth values. And a step that meets a single row beside no rows fails,
although the single row is to be repeated no times there; it fails in any order of the columns, with
the same error. In all other cases the fold has the value that it is meant to have
(`Expr.JoinsColumns`, `Expr.joinsColumns_horizontal_iff`).
-/

namespace Tabular

/-! ### Truth values -/

/-- The truth value that a connective takes a value for: an integer is true unless it is zero. It
takes no other values than integers and truth values. -/
def DataType.truth : (d : DataType) → d.Value → Bool
  | .boolean, v => v
  | .integer _, v => decide (v.toInt ≠ 0)
  | _, _ => false

namespace Series

variable {d : DataType} {s l r t u : Series} {b : Bool} {n i : Nat}

/-- The truth value of a column at a place, where a single row stands at every place. -/
def truthAt (s : Series) (i : Nat) : Option Bool :=
  (rowAt s.rows i).bind (Option.map s.dtype.truth)

/-- What can be connected is taken for its truth values. -/
theorem convertRow_truth (hd : d.isConnectable = true) (row : Option d.Value) :
    convertRow d .boolean row = .ok (row.map d.truth) := by
  cases d with
  | boolean => cases row <;> rfl
  | integer t => cases row <;> rfl
  | _ => cases hd

/-- A connective takes the rows of its operands for truth values, in pairs. There is no pair of a
single row with none. -/
theorem combine_truth (c : Connective) (hl : l.dtype.isConnectable = true)
    (hr : r.dtype.isConnectable = true)
    {ps : List (Option l.dtype.Value × Option r.dtype.Value)}
    (hps : pairRows l.rows r.rows = .ok ps) (hne : ps ≠ [] ∨ l.length = r.length) :
    l.combine (.logical c) .boolean r = .ok (ofFlags
      (ps.map fun p ↦ c.onRows (p.1.map l.dtype.truth, p.2.map r.dtype.truth))) := by
  have hsupports : (BinaryOp.logical c).supports .boolean l.dtype r.dtype = true := by
    rw [BooleanFunction.supports_logical, hl, hr]
    rfl
  have hpairs : flagPairs l r =
      .ok (ps.map (Prod.map (Option.map l.dtype.truth) (Option.map r.dtype.truth))) := by
    obtain ⟨d, as⟩ := l
    obtain ⟨e, bs⟩ := r
    -- Rows that are paired determine the truth values. Two empty operands leave no pairs, but then
    -- the lengths agree.
    rcases hne with hne | hlen
    · have hconvert : convertPair d e .boolean .boolean =
          fun p ↦ .ok (Prod.map (Option.map d.truth) (Option.map e.truth) p) := by
        funext p
        exact onPair_eq_ok.2 ⟨convertRow_truth hl p.1, convertRow_truth hr p.2⟩
      rw [flagPairs_eq_ok hps hne, hconvert, mapM_ok]
    · rw [pairRows_of_length_eq hlen] at hps
      injection hps with hps
      rw [flagPairs, spread_of_length_eq hlen]
      simp only [Outcome.ok_bind, convertRows_eq_map (convertRow_truth hl),
        convertRows_eq_map (convertRow_truth hr), ← hps, List.zip_map]
  rw [combine, if_pos hsupports, apply, connect, hpairs]
  simp only [Outcome.ok_bind, List.map_map]
  rfl

/-- A connective fails on a single row beside none. -/
theorem combine_logical_eq_error (c : Connective) (hl : l.dtype.isConnectable = true)
    (hr : r.dtype.isConnectable = true)
    (hlen : l.length = 0 ∧ r.length = 1 ∨ l.length = 1 ∧ r.length = 0) :
    l.combine (.logical c) .boolean r = invalid (.broadcast 0 1) := by
  have hsupports : (BinaryOp.logical c).supports .boolean l.dtype r.dtype = true := by
    rw [BooleanFunction.supports_logical, hl, hr]
    rfl
  rw [combine, if_pos hsupports]
  exact FollowsSpread.eq_error (followsSpread_flags c.onRows) hlen

/-- The truth value at a place is that of the row there. -/
theorem truthAt_eq {x : Option s.dtype.Value} (hx : rowAt s.rows i = some x) :
    s.truthAt i = x.map s.dtype.truth := by
  rw [truthAt, hx, Option.bind_some]

/-- A connective is taken of the truth values at each place. -/
theorem truthAt_ofFlags_map {α : Type} {ps : List α} {p : α} (f : α → Option Bool)
    (hp : rowAt ps i = some p) : (ofFlags (ps.map f)).truthAt i = f p := by
  rw [truthAt_eq (rowAt_map f hp)]
  cases f p <;> rfl

/-! ### The fold of columns -/

/-- At each of `n` places the series has the truth value that the connective makes of those that the
columns have there. -/
structure JoinsAt (b : Bool) (n : Nat) (columns : List Column) (t : Series) : Prop where
  isConnectable : t.dtype.isConnectable = true
  fits : Fits t.rows n
  joins : ∀ i < n, Connective.Joins b (columns.map fun c ↦ c.series.truthAt i) (t.truthAt i)

namespace JoinsAt

variable {columns rest : List Column} {c : Column}

/-- One column has its own truth values. -/
theorem singleton (hc : c.dtype.isConnectable = true) (hfits : Fits c.series.rows n) :
    JoinsAt b n [c] c.series :=
  ⟨hc, hfits, fun _ _ ↦ .singleton⟩

/-- **A step of the fold.** Without places neither operand may have a row. -/
theorem combine (ht : JoinsAt b n columns t) (hc : c.dtype.isConnectable = true)
    (hfits : Fits c.series.rows n) (hn : 0 < n ∨ t.length = n ∧ c.length = n) :
    ∃ u, t.combine (.logical (.settledBy b)) .boolean c.series = .ok u ∧ u.dtype = .boolean ∧
      (t.length = n ∨ c.length = n → u.length = n) ∧ JoinsAt b n (columns ++ [c]) u := by
  obtain ⟨ps, hps, hpfits⟩ := ht.fits.exists_pairRows hfits
  have hne : ps ≠ [] ∨ t.length = c.series.length :=
    hn.imp hpfits.ne_nil fun h ↦ h.1.trans h.2.symm
  refine ⟨_, combine_truth _ ht.isConnectable hc hps hne, rfl, fun hfull ↦ ?_, rfl, ?_, ?_⟩
  · exact (List.length_map _).trans (length_pairRows hps ht.fits hfits hfull)
  · exact hpfits.imp (List.length_map _).trans (List.length_map _).trans
  · intro i hi
    obtain ⟨x, hx⟩ := ht.fits.exists_rowAt hi
    obtain ⟨y, hy⟩ := hfits.exists_rowAt hi
    have hjoins := (ht.joins i hi).append (.singleton (x := c.series.truthAt i))
    rw [truthAt_eq hx, truthAt_eq hy] at hjoins
    rw [truthAt_ofFlags_map _ (rowAt_pairRows hps hx hy), List.map_append, List.map_singleton,
      truthAt_eq hy]
    exact hjoins

/-- **The run of the fold** joins the columns that it takes to those before, and its result is as
long as the longest operand. -/
theorem foldlM (ht : JoinsAt b n columns t)
    (hrest : ∀ c ∈ rest, c.dtype.isConnectable = true ∧ Fits c.series.rows n)
    (hn : 0 < n ∨ t.length = n ∧ ∀ c ∈ rest, c.length = n) :
    ∃ u, rest.foldlM
        (fun total c ↦ total.combine (.logical (.settledBy b)) .boolean c.series) t = .ok u ∧
      (t.dtype = .boolean ∨ rest ≠ [] → u.dtype = .boolean) ∧
      ((t.length = n ∨ ∃ c ∈ rest, c.length = n) → u.length = n) ∧
      JoinsAt b n (columns ++ rest) u := by
  -- Induction on the columns that are left; `JoinsAt` says what the total is after those so far.
  induction rest generalizing columns t with
  | nil => exact ⟨t, rfl, (·.resolve_right (not_not_intro rfl)), by simp, by rwa [List.append_nil]⟩
  | cons c rest ih =>
    obtain ⟨hc, hrest⟩ := List.forall_mem_cons.1 hrest
    obtain ⟨t', hstep, hdtype, hlen, ht'⟩ := ht.combine hc.1 hc.2
      (hn.imp_right fun h ↦ ⟨h.1, h.2 c List.mem_cons_self⟩)
    obtain ⟨u, hrun, hdtype', hlen', hu⟩ := ih ht' hrest
      (hn.imp_right fun h ↦ ⟨hlen (.inl h.1), fun c hc ↦ h.2 c (List.mem_cons_of_mem _ hc)⟩)
    refine ⟨u, ?_, fun _ ↦ hdtype' (.inl hdtype), fun hfull ↦ hlen' ?_, ?_⟩
    · rw [List.foldlM_cons, hstep, Outcome.ok_bind, hrun]
    · rw [List.exists_mem_cons_iff, ← or_assoc] at hfull
      exact hfull.imp_left hlen
    · rwa [List.append_cons]

end JoinsAt

/-- Over no places the fold fails if one operand has a single row and another one has none. -/
theorem foldlM_combine_eq_error (connective : Connective) {rest : List Column}
    (ht : t.dtype.isConnectable = true) (hfits : Fits t.rows 0)
    (hrest : ∀ c ∈ rest, c.dtype.isConnectable = true ∧ Fits c.series.rows 0)
    (hmixed : ∃ c ∈ rest, c.length ≠ t.length) :
    rest.foldlM (fun total c ↦ total.combine (.logical connective) .boolean c.series) t =
      invalid (.broadcast 0 1) := by
  induction rest generalizing t with
  | nil => simp at hmixed
  | cons c rest ih =>
    obtain ⟨hc, hrest⟩ := List.forall_mem_cons.1 hrest
    rw [List.foldlM_cons]
    by_cases hlen : c.length = t.length
    · -- the step goes well, and what differs from the total is still to come
      have hstep := combine_truth connective ht hc.1 (pairRows_of_length_eq hlen.symm)
        (.inr hlen.symm)
      obtain ⟨u, hu⟩ : ∃ u, t.combine (.logical connective) .boolean c.series = .ok u := ⟨_, hstep⟩
      have hlength : u.length = t.length := length_combine hlen.symm hu
      rw [hu, Outcome.ok_bind]
      refine ih ?_ ?_ hrest ?_
      · rw [dtype_combine hu]
        rfl
      · exact hfits.imp hlength.trans hlength.trans
      · rw [hlength]
        exact ((List.exists_mem_cons_iff ..).1 hmixed).resolve_left (not_not_intro hlen)
    · have hcases : t.length = 0 ∧ c.length = 1 ∨ t.length = 1 ∧ c.length = 0 := by
        have hc0 := hc.2
        unfold Fits at hfits hc0
        change t.length = 0 ∨ t.length = 1 at hfits
        change c.length = 0 ∨ c.length = 1 at hc0
        omega
      rw [combine_logical_eq_error connective ht hc.1 hcases]
      rfl

/-- The columns have truth values or integers, at each of `n` places or a single one for all, and
one of them is at full length. -/
structure Connectable (n : Nat) (columns : List Column) : Prop where
  isConnectable : ∀ c ∈ columns, c.dtype.isConnectable = true
  fits : ∀ c ∈ columns, Fits c.series.rows n
  exists_full : ∃ c ∈ columns, c.length = n

/-- The order of the columns is no matter to what can be connected. -/
theorem Connectable.of_perm {columns columns' : List Column} (h : Connectable n columns)
    (hperm : columns'.Perm columns) : Connectable n columns' where
  isConnectable c hc := h.isConnectable c (hperm.mem_iff.1 hc)
  fits c hc := h.fits c (hperm.mem_iff.1 hc)
  exists_full := h.exists_full.imp fun _ ⟨hc, hlen⟩ ↦ ⟨hperm.mem_iff.2 hc, hlen⟩

/-- A single column has truth values, and if there are no places then no column has a row. -/
def Uniform (n : Nat) (columns : List Column) : Prop :=
  (∀ c, columns = [c] → c.dtype = .boolean) ∧ (n = 0 → ∀ c ∈ columns, c.length = 0)

theorem Uniform.of_perm {columns columns' : List Column} (h : Uniform n columns)
    (hperm : columns'.Perm columns) : Uniform n columns' := by
  refine ⟨fun c hc ↦ h.1 c ?_, fun hn c hc ↦ h.2 hn c (hperm.mem_iff.1 hc)⟩
  exact List.perm_singleton.1 (hc ▸ hperm.symm)

/-- **The fold of columns** joins them, unless a single one has integers or no places meet a row. -/
theorem exists_fold {columns : List Column} (hcolumns : Connectable n columns)
    (huniform : Uniform n columns) :
    ∃ u, BooleanFunction.fold (.settledBy b) columns = .ok u ∧ u.dtype = .boolean ∧
      u.length = n ∧ JoinsAt b n columns u := by
  obtain ⟨htypes, hfits, hfull⟩ := hcolumns
  obtain ⟨hsingle, hempty⟩ := huniform
  cases columns with
  | nil => simp at hfull
  | cons c rest =>
    obtain ⟨hc, hrest⟩ := List.forall_mem_cons.1 fun c hc ↦ And.intro (htypes c hc) (hfits c hc)
    have hn : 0 < n ∨ c.length = n ∧ ∀ c ∈ rest, c.length = n := by
      rcases Nat.eq_zero_or_pos n with rfl | hpos
      · exact .inr (List.forall_mem_cons.1 (hempty rfl))
      · exact .inl hpos
    obtain ⟨u, hrun, hdtype, hlen, hu⟩ := (JoinsAt.singleton hc.1 hc.2).foldlM (b := b) hrest hn
    refine ⟨u, hrun, hdtype ?_, hlen ((List.exists_mem_cons_iff ..).1 hfull), hu⟩
    by_cases hone : rest = []
    · exact .inl (hsingle c (by rw [hone]))
    · exact .inr hone

/-- Over no places the fold fails if some of the columns have a single row, and some have none. -/
theorem fold_eq_error (connective : Connective) {columns : List Column}
    (hcolumns : Connectable 0 columns) (hrow : ∃ c ∈ columns, c.length ≠ 0) :
    BooleanFunction.fold connective columns = invalid (.broadcast 0 1) := by
  obtain ⟨htypes, hfits, hfull⟩ := hcolumns
  cases columns with
  | nil => simp at hfull
  | cons c rest =>
    obtain ⟨hc, hrest⟩ := List.forall_mem_cons.1 fun c hc ↦ And.intro (htypes c hc) (hfits c hc)
    refine foldlM_combine_eq_error connective hc.1 hc.2 hrest ?_
    rw [List.exists_mem_cons_iff] at hfull hrow
    by_cases hlen : c.length = 0
    · obtain ⟨c', hc', hrow⟩ := hrow.resolve_left (not_not_intro hlen)
      exact ⟨c', hc', fun h ↦ hrow (h.trans hlen)⟩
    · obtain ⟨c', hc', hfull⟩ := hfull.resolve_left hlen
      exact ⟨c', hc', fun h ↦ hlen (h.symm.trans hfull)⟩

end Series

/-! ### Nodes -/

/-- The connective of columns that `b` settles. -/
def BooleanFunction.horizontal : Bool → BooleanFunction
  | true => anyHorizontal
  | false => allHorizontal

namespace Expr

open Series

variable {fr : Frame} {b : Bool} {n : Nat} {cs cs' : List Expr} {columns columns' : List Column}

/-- A connective of columns. -/
def horizontal (b : Bool) (cs : List Expr) : Expr :=
  node .boolean (.booleanFunction (.horizontal b)) cs

/-- The children of a node have the columns. -/
def HaveColumns (fr : Frame) : List Expr → List Column → Prop :=
  List.Forall₂ fun e c ↦ e.evaluate fr .frame .empty = .ok c

/-- The node is the fold of the columns of its children. -/
theorem values_horizontal (hcolumns : HaveColumns fr cs columns) :
    (horizontal b cs).values fr .frame .empty =
      BooleanFunction.fold (.settledBy b) columns := by
  have hread : cs.all (fun e ↦ (BooleanFunction.horizontal b).readsChild e.dtype) = true := by
    cases b <;> exact List.all_eq_true.2 fun _ _ ↦ rfl
  have hfold : (BooleanFunction.horizontal b).onColumns columns =
      BooleanFunction.fold (.settledBy b) columns := by
    cases b <;> rfl
  have hall : (cs.map (evaluate fr .frame .empty)).mapM id = .ok columns :=
    Outcome.mapM_eq_ok.2 (List.forall₂_map_left_iff.2 hcolumns)
  rw [horizontal, values_node (Mapping.find?_empty _)]
  simp only [evaluateNode, if_pos hread, hall, Outcome.ok_bind, hfold]
  cases BooleanFunction.fold (.settledBy b) columns <;> rfl

/-- The value that a connective of columns is meant to have: a truth value at each of `n` places,
namely what the connective makes of those that the columns have there. -/
def JoinsColumns (b : Bool) (n : Nat) (fr : Frame) (cs : List Expr) (columns : List Column) :
    Prop :=
  ∃ flags, (horizontal b cs).values fr .frame .empty = .ok (.ofFlags flags) ∧ flags.length = n ∧
    ∀ i < n, ∃ value, flags[i]? = some value ∧
      Connective.Joins b (columns.map fun c ↦ c.series.truthAt i) value

/-- A fold that joins its columns is the value that the node is meant to have. -/
theorem joinsColumns_of_fold {u : Series} (hcolumns : HaveColumns fr cs columns)
    (hfold : BooleanFunction.fold (.settledBy b) columns = .ok u) (hdtype : u.dtype = .boolean)
    (hlen : u.length = n) (hu : JoinsAt b n columns u) : JoinsColumns b n fr cs columns := by
  obtain ⟨d, flags⟩ := u
  obtain rfl : d = .boolean := hdtype
  refine ⟨flags, (values_horizontal hcolumns).trans hfold, hlen, fun i hi ↦ ?_⟩
  have hi' : i < flags.length := hi.trans_eq hlen.symm
  have hjoins := hu.joins i hi
  rw [truthAt_eq ((rowAt_of_lt hi').trans (List.getElem?_eq_getElem hi'))] at hjoins
  refine ⟨flags[i], List.getElem?_eq_getElem hi', ?_⟩
  rwa [show (flags[i]).map (DataType.truth .boolean) = flags[i] from Option.map_id'] at hjoins

/-- Columns that are joined in another order have the same value. -/
theorem JoinsColumns.values_eq (h : JoinsColumns b n fr cs columns)
    (h' : JoinsColumns b n fr cs' columns') (hperm : columns'.Perm columns) :
    (horizontal b cs').values fr .frame .empty = (horizontal b cs).values fr .frame .empty := by
  obtain ⟨flags, hvalues, hlen, hjoins⟩ := h
  obtain ⟨flags', hvalues', hlen', hjoins'⟩ := h'
  obtain rfl : flags' = flags := List.ext_getElem? fun i ↦ by
    by_cases hi : i < n
    · obtain ⟨value, hvalue, hjoin⟩ := hjoins i hi
      obtain ⟨value', hvalue', hjoin'⟩ := hjoins' i hi
      rw [hvalue, hvalue', hjoin.unique (hjoin'.of_perm (hperm.map _))]
    · rw [List.getElem?_eq_none (by omega), List.getElem?_eq_none (by omega)]
  rw [hvalues, hvalues']

/-- The node has that value unless one of the two exceptions is met. -/
theorem joinsColumns_iff (hcolumns : HaveColumns fr cs columns) (h : Connectable n columns) :
    JoinsColumns b n fr cs columns ↔ Uniform n columns := by
  constructor
  · rintro ⟨flags, hvalues, -⟩
    rw [values_horizontal hcolumns] at hvalues
    refine ⟨?_, ?_⟩
    · rintro c rfl
      injection hvalues with hvalues
      exact congrArg Series.dtype hvalues
    · rintro rfl
      by_contra hrow
      simp only [not_forall, exists_prop] at hrow
      rw [fold_eq_error _ h hrow] at hvalues
      cases hvalues
  · intro huniform
    obtain ⟨u, hfold, hdtype, hlen, hu⟩ := exists_fold (b := b) h huniform
    exact joinsColumns_of_fold hcolumns hfold hdtype hlen hu

/-- **When a connective of columns has the value that it is meant to have**: always, but for a
single column of integers and for columns without rows beside one with a single row. In any case the
order of the columns is no matter, be it of the value or of the error. -/
theorem joinsColumns_horizontal_iff (hcolumns : HaveColumns fr cs columns)
    (h : Connectable n columns) :
    (JoinsColumns b n fr cs columns ↔ Uniform n columns) ∧
    ∀ cs', cs'.Perm cs →
      (horizontal b cs').values fr .frame .empty = (horizontal b cs).values fr .frame .empty := by
  refine ⟨joinsColumns_iff hcolumns h, fun cs' hperm ↦ ?_⟩
  obtain ⟨columns', hcolumns', hperm'⟩ := List.perm_comp_forall₂ hperm hcolumns
  have h' := h.of_perm hperm'
  by_cases huniform : Uniform n columns
  · exact ((joinsColumns_iff hcolumns h).2 huniform).values_eq
      ((joinsColumns_iff hcolumns' h').2 (huniform.of_perm hperm')) hperm'
  · simp only [Uniform, not_and_or, not_forall, exists_prop] at huniform
    rcases huniform with ⟨c, rfl, -⟩ | ⟨rfl, c, hc, hrow⟩
    · -- a single column has no other order
      obtain ⟨e, rfl⟩ := List.length_eq_one_iff.1 hcolumns.length_eq
      rw [List.perm_singleton.1 hperm]
    · rw [values_horizontal hcolumns, values_horizontal hcolumns', fold_eq_error _ h ⟨c, hc, hrow⟩,
        fold_eq_error _ h' ⟨c, hperm'.mem_iff.2 hc, hrow⟩]

/-- Which of three lamps are lit. -/
def lampFlags : Column := { series := .ofFlags [some true, none, some false] }

/-- The levels that the lamps are set to. -/
def lampLevels : Column :=
  { series := ⟨.int64, [some (FixedInt.wrap .int64 3), none, some (FixedInt.wrap .int64 0)]⟩ }

/-- The frame of the lamps. -/
def lampsFrame : Frame := ⟨[⟨"lit", lampFlags⟩, ⟨"level", lampLevels⟩], rfl⟩

/-- Which lamps are lit, their levels, and that there is power for all of them. -/
def lampColumns : List Expr :=
  [node .boolean (.col "lit") [], node .int64 (.col "level") [],
    node .boolean (.literal (.boolean true)) []]

/-- The columns of the three expressions. -/
def lampValues : List Column := [lampFlags, lampLevels, { series := .ofFlags [some true] }]

/-- Lamps that are lit at some level, with power, in any order of the columns. -/
theorem joinsColumns_horizontal_iff_lamps :
    HaveColumns lampsFrame lampColumns lampValues ∧ Connectable 3 lampValues ∧
    JoinsColumns false 3 lampsFrame lampColumns lampValues ∧
    ∀ cs', cs'.Perm lampColumns →
      (horizontal false cs').values lampsFrame .frame .empty =
        (horizontal false lampColumns).values lampsFrame .frame .empty := by
  have hcolumns : HaveColumns lampsFrame lampColumns lampValues :=
    .cons rfl (.cons rfl (.cons rfl .nil))
  have hconnectable : Connectable 3 lampValues :=
    ⟨by decide, by unfold Fits; decide, by decide⟩
  have hiff := joinsColumns_horizontal_iff (b := false) hcolumns hconnectable
  exact ⟨hcolumns, hconnectable, hiff.1.2 ⟨nofun, nofun⟩, hiff.2⟩

/-- A single column of levels keeps its type, though the node is accepted as one of truth values. -/
theorem not_joinsColumns_horizontal :
    ¬∀ (b : Bool) (n : Nat) (fr : Frame) (cs : List Expr) (columns : List Column) (e : Expr),
      Expr.build .boolean (.booleanFunction (.horizontal b)) cs = .ok e →
      HaveColumns fr cs columns → Connectable n columns → JoinsColumns b n fr cs columns := by
  intro h
  obtain ⟨flags, hvalues, -⟩ := h false 3 lampsFrame [node .int64 (.col "level") []] [lampLevels]
    _ rfl (.cons rfl .nil) ⟨by decide, by unfold Fits; decide, by decide⟩
  injection hvalues with hvalues
  cases congrArg Series.dtype hvalues

end Expr

end Tabular
