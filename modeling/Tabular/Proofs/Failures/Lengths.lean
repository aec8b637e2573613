import Tabular.Proofs.Failures.Operators

/-!
# Operands of different lengths

A binary operator takes a single row for as many rows as its other operand has. There are two ways
to do so. Most kernels pair the row with each row of the other operand (`pairRows`). Connectives,
bitwise operators and the divisions with a rule of their own for zero first repeat it, up to the
length of the longer operand (`Series.spread`). The two agree, and agree with a row that was
repeated before, as long as there is a row to pair it with. Beside an operand without rows the
single row is itself the longer one, and the operators of the second kind fail.

Every kernel is of one of the two kinds (`Series.follows_apply`), and what is said here about
lengths follows from that alone: the kinds are closed under what is done with the pairs afterwards,
so it is enough to look at how operands are brought together. A single row against its repetition
(`Series.combine_broadcast`) is then a fact about each of the two ways, and the connective that
refuses a single row beside none (`Series.not_combine_eq_combine_broadcast`) is one of the second
kind.
-/

namespace Tabular

/-! ### Pairing a single row -/

section Pairs

variable {α β : Type} {as : List α} {bs : List β}

/-- A single row on the right is paired with every row. -/
theorem pairRows_replicate_right (as : List α) (b : β) :
    pairRows as (List.replicate as.length b) = pairRows as [b] := by
  have hzip : as.zip (List.replicate as.length b) = as.map (·, b) :=
    Series.zipWith_replicate_length Prod.mk as b
  rw [pairRows_of_length_eq List.length_replicate.symm, hzip, pairRows_single_right]

/-- A single row on the left is paired with every row. -/
theorem pairRows_replicate_left (a : α) (bs : List β) :
    pairRows (List.replicate bs.length a) bs = pairRows [a] bs := by
  have hzip : (List.replicate bs.length a).zip bs = bs.map (a, ·) := by
    rw [List.zip, List.zipWith_comm]
    exact Series.zipWith_replicate_length (fun b a ↦ (a, b)) bs a
  rw [pairRows_of_length_eq List.length_replicate, hzip, pairRows_single_left]

/-- Lists of two lengths, none of them one, are not paired. -/
theorem pairRows_eq_error (hlen : as.length ≠ bs.length) (has : as.length ≠ 1)
    (hbs : bs.length ≠ 1) :
    pairRows as bs = invalid (.operandLengths as.length bs.length) := by
  unfold pairRows
  rw [if_neg hlen]
  split
  · exact absurd rfl has
  · exact absurd rfl hbs
  · rfl

end Pairs

namespace Series

variable {d e out : DataType} {s l r : Series} {n : Nat}

/-- Only a single row is repeated. -/
theorem broadcast_eq_error (hn : s.length ≠ n) (h : s.length ≠ 1) :
    s.broadcast n = invalid (.broadcast s.length n) := by
  rw [broadcast, if_neg hn]
  split
  · next hrow => exact absurd (congrArg List.length hrow) h
  · rfl

/-- A single row is repeated to any length but that of no rows. -/
theorem spread_single_right (h : 0 < l.length) (x : Option e.Value) :
    l.spread ⟨e, [x]⟩ = l.spread ⟨e, List.replicate l.length x⟩ := by
  have hmax : max l.length (⟨e, [x]⟩ : Series).length = l.length := Nat.max_eq_left h
  rw [spread_of_length_eq (r := ⟨e, List.replicate l.length x⟩) List.length_replicate.symm,
    spread, hmax, broadcast_self rfl, broadcast_single]
  rfl

theorem spread_single_left (h : 0 < r.length) (x : Option d.Value) :
    spread ⟨d, [x]⟩ r = spread ⟨d, List.replicate r.length x⟩ r := by
  have hmax : max (⟨d, [x]⟩ : Series).length r.length = r.length := Nat.max_eq_right h
  rw [spread_of_length_eq (l := ⟨d, List.replicate r.length x⟩) List.length_replicate,
    spread, hmax, broadcast_self rfl, broadcast_single]
  rfl

/-- No rows beside one: it is the one row that is longer, and no rows cannot be repeated. -/
theorem spread_empty_left (hl : l.length = 0) (hr : r.length = 1) :
    l.spread r = invalid (.broadcast 0 1) := by
  have hbroadcast : l.broadcast 1 = invalid (.broadcast 0 1) :=
    hl ▸ broadcast_eq_error (by omega) (by omega)
  simp only [spread, hl, hr, hbroadcast, Nat.max_eq_right, Nat.zero_le]
  rfl

theorem spread_empty_right (hl : l.length = 1) (hr : r.length = 0) :
    l.spread r = invalid (.broadcast 0 1) := by
  have hbroadcast : r.broadcast 1 = invalid (.broadcast 0 1) :=
    hr ▸ broadcast_eq_error (by omega) (by omega)
  simp only [spread, hl, hr, hbroadcast, broadcast_self hl, Nat.max_eq_left, Nat.zero_le]
  rfl

/-- Two lengths, none of them one, are not brought to the longer. -/
theorem spread_eq_error (hlen : l.length ≠ r.length) (hl : l.length ≠ 1) (hr : r.length ≠ 1) :
    ∃ cause, l.spread r = invalid cause := by
  rcases Nat.lt_or_gt_of_ne hlen with hlt | hlt
  · refine ⟨.broadcast l.length r.length, ?_⟩
    rw [spread, Nat.max_eq_right (Nat.le_of_lt hlt), broadcast_eq_error hlen hl]
    rfl
  · refine ⟨.broadcast r.length l.length, ?_⟩
    rw [spread, Nat.max_eq_left (Nat.le_of_lt hlt), broadcast_self rfl,
      broadcast_eq_error hlen.symm hr]
    rfl

/-! ### The two kinds of kernels -/

section Kinds

variable {k : List (Option d.Value) → List (Option e.Value) → Outcome Series}

/-- The operation pairs the rows of its operands, each made ready on its own, and computes with the
pairs. -/
def FollowsPairs (k : List (Option d.Value) → List (Option e.Value) → Outcome Series) : Prop :=
  ∃ (α β : Type) (f : Option d.Value → α) (g : Option e.Value → β)
    (h : List (α × β) → Outcome Series), ∀ as bs, k as bs = pairRows (as.map f) (bs.map g) >>= h

/-- The operation first brings its operands to the length of the longer one. -/
def FollowsSpread (k : List (Option d.Value) → List (Option e.Value) → Outcome Series) : Prop :=
  ∃ h : Series × Series → Outcome Series, ∀ as bs, k as bs = spread ⟨d, as⟩ ⟨e, bs⟩ >>= h

/-- Comparisons pair rows at the common type. -/
theorem followsPairs_compare (c : Comparison)
    (h : d = e ∨ d.isNumeric ∧ e.isNumeric ∨ d.isText ∧ e.isText) :
    FollowsPairs (d := d) (e := e) fun as bs ↦
      compare c ⟨d, as⟩ ⟨e, bs⟩ >>= fun flags ↦ .ok (ofFlags flags) := by
  obtain ⟨hd, he⟩ := convertsAllRows_comparedAs h
  obtain ⟨f, hf⟩ := hd.exists_eq_map
  obtain ⟨g, hg⟩ := he.exists_eq_map
  refine ⟨_, _, f, g, fun pairs ↦
    (if (comparedAs d e).isList then kernelFault (.comparison (comparedAs d e))
      else .ok (pairs.map (c.onRows (comparedAs d e)))) >>= fun flags ↦ .ok (ofFlags flags),
    fun as bs ↦ ?_⟩
  have hcoerce : coerce ⟨d, as⟩ ⟨e, bs⟩ =
      .ok (⟨comparedAs d e, as.map f⟩, ⟨comparedAs d e, bs.map g⟩) :=
    (coerce_eq_ok rfl).2 ⟨_, _, hf as, hg bs, rfl⟩
  simp only [compare, hcoerce, Outcome.ok_bind, convertRows_self, bind_assoc]

/-- Connectives repeat rows before they convert them. -/
theorem followsSpread_flags (f : Option Bool × Option Bool → Option Bool) :
    FollowsSpread (d := d) (e := e) fun as bs ↦
      (flagPairs ⟨d, as⟩ ⟨e, bs⟩ >>= fun pairs ↦ .ok (pairs.map f)) >>= fun flags ↦
        .ok (ofFlags flags) :=
  ⟨_, fun _ _ ↦ (congrArg (· >>= _) (bind_assoc ..)).trans (bind_assoc ..)⟩

/-- Bitwise operators do the same with integers. -/
theorem followsSpread_bitwiseInts (b : Bitwise) (t : IntType) :
    FollowsSpread (d := d) (e := e) fun as bs ↦
      bitwiseInts b t ⟨d, as⟩ ⟨e, bs⟩ >>= fun rows ↦ .ok ⟨.integer t, rows⟩ :=
  ⟨_, fun _ _ ↦ bind_assoc ..⟩

/-- Arithmetic does either, by the operator. -/
theorem follows_operandPairs (op : Arithmetic) (d' : DataType) (hd : d.isNumeric = true)
    (he : e.isNumeric = true) (hd' : d'.isNumeric = true)
    (h : List (Option d'.Value × Option d'.Value) → Outcome Series) :
    if op.spreads d' then
      FollowsSpread (d := d) (e := e) fun as bs ↦ operandPairs op d' ⟨d, as⟩ ⟨e, bs⟩ >>= h
    else FollowsPairs (d := d) (e := e) fun as bs ↦ operandPairs op d' ⟨d, as⟩ ⟨e, bs⟩ >>= h := by
  unfold operandPairs
  split
  · exact ⟨_, fun _ _ ↦ bind_assoc ..⟩
  · obtain ⟨f, hf⟩ := (convertsAllRows_of_isNumeric hd hd').exists_eq_map
    obtain ⟨g, hg⟩ := (convertsAllRows_of_isNumeric he hd').exists_eq_map
    refine ⟨_, _, f, g, h, fun as bs ↦ ?_⟩
    simp only [hf, hg, Outcome.ok_bind]

/-- What arithmetic computes with the pairs is no matter of lengths. -/
theorem follows_calculate (op : Arithmetic) (hd : d.isNumeric = true) (he : e.isNumeric = true)
    (hout : out.isNumeric = true) :
    if op.spreads out then
      FollowsSpread (d := d) (e := e) fun as bs ↦ calculate op out ⟨d, as⟩ ⟨e, bs⟩
    else FollowsPairs (d := d) (e := e) fun as bs ↦ calculate op out ⟨d, as⟩ ⟨e, bs⟩ := by
  -- True division pairs its operands as floats, whatever it gives back.
  by_cases hop : op = .trueDiv
  · subst hop
    exact follows_operandPairs .trueDiv .float64 hd he rfl _
  · cases out with
    | integer t =>
      have hcalc (l r : Series) : l.calculate op (.integer t) r =
          l.operandPairs op (.integer t) r >>= fun pairs ↦
            .ok ⟨.integer t, pairs.map (onBoth op.onInts)⟩ := by
        cases op <;> first | rfl | exact absurd rfl hop
      simp only [hcalc]
      exact follows_operandPairs op (.integer t) hd he hout _
    | float t =>
      have hcalc (l r : Series) : l.calculate op (.float t) r =
          l.operandPairs op (.float t) r >>= fun pairs ↦
            .ok ⟨.float t, pairs.map (onBoth fun a b ↦ some (op.onFloats a b))⟩ := by
        cases op <;> first | rfl | exact absurd rfl hop
      simp only [hcalc]
      exact follows_operandPairs op (.float t) hd he hout _
    | _ => cases hout

theorem followsPairs_shiftTicks (op : Arithmetic) (out : DataType) :
    FollowsPairs (d := d) (e := e) fun as bs ↦ shiftTicks op out ⟨d, as⟩ ⟨e, bs⟩ := by
  simp only [shiftTicks, ticks_eq]
  exact ⟨_, _, rowTicks d, rowTicks e, _, fun _ _ ↦ rfl⟩

/-! ### What a single row stands for -/

/-- Pairing makes the same of a single row and its repetition, whatever the length. -/
theorem FollowsPairs.single_right (h : FollowsPairs k) (as : List (Option d.Value))
    (x : Option e.Value) : k as [x] = k as (List.replicate as.length x) := by
  obtain ⟨_, _, f, g, h, hk⟩ := h
  rw [hk, hk, List.map_singleton, List.map_replicate, ← List.length_map f,
    pairRows_replicate_right]

theorem FollowsPairs.single_left (h : FollowsPairs k) (x : Option d.Value)
    (bs : List (Option e.Value)) : k [x] bs = k (List.replicate bs.length x) bs := by
  obtain ⟨_, _, f, g, h, hk⟩ := h
  rw [hk, hk, List.map_singleton, List.map_replicate, ← List.length_map g,
    pairRows_replicate_left]

/-- Pairing refuses two lengths, none of them one. -/
theorem FollowsPairs.exists_error (h : FollowsPairs k) {as : List (Option d.Value)}
    {bs : List (Option e.Value)} (hlen : as.length ≠ bs.length) (has : as.length ≠ 1)
    (hbs : bs.length ≠ 1) : ∃ cause, k as bs = invalid cause := by
  obtain ⟨_, _, f, g, h, hk⟩ := h
  refine ⟨.operandLengths (as.map f).length (bs.map g).length, ?_⟩
  rw [hk, pairRows_eq_error]
  · rfl
  · rwa [List.length_map, List.length_map]
  · rwa [List.length_map]
  · rwa [List.length_map]

/-- Repeating makes the same of them if there is a row beside them. -/
theorem FollowsSpread.single_right (h : FollowsSpread k) {as : List (Option d.Value)}
    (has : 0 < as.length) (x : Option e.Value) : k as [x] = k as (List.replicate as.length x) := by
  obtain ⟨h, hk⟩ := h
  rw [hk, hk, spread_single_right (l := ⟨d, as⟩) has]
  rfl

theorem FollowsSpread.single_left (h : FollowsSpread k) (x : Option d.Value)
    {bs : List (Option e.Value)} (hbs : 0 < bs.length) :
    k [x] bs = k (List.replicate bs.length x) bs := by
  obtain ⟨h, hk⟩ := h
  rw [hk, hk, spread_single_left (r := ⟨e, bs⟩) hbs]
  rfl

/-- One row is longer than none, and none cannot be repeated. -/
theorem FollowsSpread.eq_error (h : FollowsSpread k) {as : List (Option d.Value)}
    {bs : List (Option e.Value)}
    (hlen : as.length = 0 ∧ bs.length = 1 ∨ as.length = 1 ∧ bs.length = 0) :
    k as bs = invalid (.broadcast 0 1) := by
  obtain ⟨h, hk⟩ := h
  have hspread : spread ⟨d, as⟩ ⟨e, bs⟩ = invalid (.broadcast 0 1) := by
    rcases hlen with ⟨has, hbs⟩ | ⟨has, hbs⟩
    · exact spread_empty_left has hbs
    · exact spread_empty_right has hbs
  rw [hk, hspread]
  rfl

/-- Repeating refuses them too. -/
theorem FollowsSpread.exists_error (h : FollowsSpread k) {as : List (Option d.Value)}
    {bs : List (Option e.Value)} (hlen : as.length ≠ bs.length) (has : as.length ≠ 1)
    (hbs : bs.length ≠ 1) : ∃ cause, k as bs = invalid cause := by
  obtain ⟨h, hk⟩ := h
  obtain ⟨cause, hcause⟩ := spread_eq_error (l := ⟨d, as⟩) (r := ⟨e, bs⟩) hlen has hbs
  exact ⟨cause, by rw [hk, hcause]; rfl⟩

end Kinds

end Series

/-- Whether the operator repeats a single row before it pairs rows. -/
def BinaryOp.spreads (op : BinaryOp) (out : DataType) : Bool :=
  match op with
  | comparison _ => false
  | logical _ => true
  | bitwise _ => true
  | arithmetic a => a.spreads out

namespace Series

variable {d e out : DataType} {s l r : Series} {n : Nat}

/-- On types of the table every operator is of one of the two kinds. -/
theorem follows_apply {op : BinaryOp} (h : op.supports out d e = true) :
    if op.spreads out then
      FollowsSpread (d := d) (e := e) fun as bs ↦ apply op out ⟨d, as⟩ ⟨e, bs⟩
    else FollowsPairs (d := d) (e := e) fun as bs ↦ apply op out ⟨d, as⟩ ⟨e, bs⟩ := by
  cases op with
  | comparison c =>
    refine followsPairs_compare c ?_
    simpa only [BinaryOp.supports, Bool.and_eq_true, Bool.or_eq_true, decide_eq_true_eq,
      or_assoc] using (Bool.and_eq_true_iff.1 h).2
  | logical c => exact followsSpread_flags c.onRows
  | bitwise b =>
    cases out with
    | integer t => exact followsSpread_bitwiseInts b t
    | _ => exact followsSpread_flags b.onFlags
  | arithmetic a =>
    simp only [BinaryOp.supports] at h
    split at h
    · next hnumeric =>
      obtain ⟨hd, he⟩ := Bool.and_eq_true_iff.1 hnumeric
      simp only [apply, temporalResult?_of_isNumeric hd]
      exact follows_calculate a hd he h
    -- Ticks are shifted over paired rows, with nothing spread beforehand.
    · have htemporal := of_decide_eq_true h
      have hspreads : (BinaryOp.arithmetic a).spreads out = false := by
        cases a with
        | add | sub => rfl
        | _ => cases htemporal
      simp only [hspreads, apply, htemporal, Option.isSome_some, if_true]
      exact followsPairs_shiftTicks a out

/-! ### Lengths of operands and results -/

section Combine

variable {op : BinaryOp}

/-- Lists are only compared, with lists of their own type. -/
theorem eq_of_supports_of_isList (h : op.supports out d e = true) (hd : d.isList = true) :
    (∃ c, op = .comparison c) ∧ d = e := by
  cases d with
  | list item =>
    cases op with
    | comparison c =>
      simp only [BinaryOp.supports, DataType.isNumeric, DataType.isText, Bool.false_and,
        Bool.or_false, Bool.and_eq_true, decide_eq_true_eq] at h
      exact ⟨⟨c, rfl⟩, h.2⟩
    | arithmetic a => cases a <;> cases h
    | bitwise b => cases out <;> cases h
    | logical c => cases out <;> cases h
  | _ => cases hd

/-- An operator gives a row for each pair of rows. -/
theorem length_combine {t : Series} (hlen : l.length = r.length)
    (h : l.combine op out r = .ok t) : t.length = l.length := by
  unfold combine at h
  split at h
  · next hsupports =>
    cases hover : overflows op l r with
    | true => rw [apply_eq_overflow hlen hover] at h; cases h
    | false =>
      cases hlist : l.dtype.isList with
      | true =>
        obtain ⟨⟨c, rfl⟩, hdtype⟩ := eq_of_supports_of_isList hsupports hlist
        obtain ⟨flags, hflags, -⟩ := Outcome.bind_eq_ok.1 h
        have hself : comparedAs l.dtype r.dtype = l.dtype := by
          rw [comparedAs, if_pos hdtype]
        have hnot := ((compare_eq_ok hself).1 hflags).1
        rw [hlist] at hnot
        cases hnot
      | false =>
        obtain ⟨t', ht', hlen'⟩ := exists_apply hlist hlen hsupports hover
        rw [ht'] at h
        injection h with h
        exact h ▸ hlen'
  · cases h

/-- Operands of one length that are no lists have a result, unless ticks overflow. -/
theorem exists_combine (h : op.supports out l.dtype r.dtype = true) (hlen : l.length = r.length)
    (hlist : l.dtype.isList = false) (hfits : overflows op l r = false) :
    ∃ t, l.combine op out r = .ok t := by
  obtain ⟨t, ht, -⟩ := exists_apply hlist hlen h hfits
  exact ⟨t, (if_pos h).trans ht⟩

/-- A single row on the right, against its repetition. -/
theorem combine_single_right (h : op.supports out l.dtype e = true) (x : Option e.Value) :
    l.combine op out ⟨e, [x]⟩ =
      if l.length = 0 ∧ op.spreads out = true then invalid (.broadcast 0 1)
      else l.combine op out ⟨e, List.replicate l.length x⟩ := by
  obtain ⟨d, as⟩ := l
  have hkind := follows_apply h
  have happly (bs : List (Option e.Value)) :
      combine op out ⟨d, as⟩ ⟨e, bs⟩ = apply op out ⟨d, as⟩ ⟨e, bs⟩ := if_pos h
  rw [happly, happly]
  by_cases hspreads : op.spreads out = true
  · rw [if_pos hspreads] at hkind
    split
    · next hempty => exact hkind.eq_error (.inl ⟨hempty.1, rfl⟩)
    · next hne => exact hkind.single_right (Nat.pos_of_ne_zero fun h ↦ hne ⟨h, hspreads⟩) x
  · rw [if_neg hspreads] at hkind
    rw [if_neg fun h ↦ hspreads h.2]
    exact hkind.single_right as x

/-- A single row on the left, against its repetition. -/
theorem combine_single_left (h : op.supports out d r.dtype = true) (x : Option d.Value) :
    combine op out ⟨d, [x]⟩ r =
      if r.length = 0 ∧ op.spreads out = true then invalid (.broadcast 0 1)
      else combine op out ⟨d, List.replicate r.length x⟩ r := by
  obtain ⟨e, bs⟩ := r
  have hkind := follows_apply h
  have happly (as : List (Option d.Value)) :
      combine op out ⟨d, as⟩ ⟨e, bs⟩ = apply op out ⟨d, as⟩ ⟨e, bs⟩ := if_pos h
  rw [happly, happly]
  by_cases hspreads : op.spreads out = true
  · rw [if_pos hspreads] at hkind
    split
    · next hempty => exact hkind.eq_error (.inr ⟨rfl, hempty.1⟩)
    · next hne => exact hkind.single_left x (Nat.pos_of_ne_zero fun h ↦ hne ⟨h, hspreads⟩)
  · rw [if_neg hspreads] at hkind
    rw [if_neg fun h ↦ hspreads h.2]
    exact hkind.single_left x bs

/-- On types of the table, operands of two lengths, none of them one, are refused by both kinds. -/
theorem combine_eq_error (h : op.supports out l.dtype r.dtype = true)
    (hlen : l.length ≠ r.length) (hl : l.length ≠ 1) (hr : r.length ≠ 1) :
    ∃ cause, l.combine op out r = invalid cause := by
  have hkind := follows_apply h
  have happly : l.combine op out r = l.apply op out r := if_pos h
  rw [happly]
  split at hkind
  · exact hkind.exists_error hlen hl hr
  · exact hkind.exists_error hlen hl hr

/-- Operands without rows have a result, if the operator is one of those that repeat a row. -/
theorem exists_combine_of_empty (h : op.supports out l.dtype r.dtype = true)
    (hspreads : op.spreads out = true) (hl : l.length = 0) (hr : r.length = 0) :
    ∃ t, l.combine op out r = .ok t := by
  refine exists_combine h (hl.trans hr.symm) ?_ ?_
  · refine Bool.eq_false_iff.2 fun hlist ↦ ?_
    obtain ⟨⟨c, rfl⟩, -⟩ := eq_of_supports_of_isList h hlist
    cases hspreads
  · have hticks : l.ticks = [] := List.length_eq_zero_iff.1 ((length_ticks l).trans hl)
    cases op with
    | arithmetic a => rw [overflows, hticks, List.zip_nil_left, List.all_nil, Bool.not_true,
        Bool.and_false]
    | _ => rfl

/-- Two outcomes that agree outside a condition, under which one of them is an error and the other
is not. -/
theorem eq_iff_of_eq_ite {x x' : Outcome Series} {c : Prop} [Decidable c] {e : Error}
    (h : x = if c then .error e else x') (hok : c → ∃ t, x' = .ok t) : x = x' ↔ ¬c := by
  constructor
  · intro heq hc
    obtain ⟨t, ht⟩ := hok hc
    rw [if_pos hc, heq, ht] at h
    cases h
  · intro hc
    rw [h, if_neg hc]

/-- A value is not the error that stands under the condition. -/
theorem eq_ok_of_eq_ite {x x' : Outcome Series} {c : Prop} [Decidable c] {e : Error} {t : Series}
    (h : x = if c then .error e else x') (ht : x = .ok t) : x' = .ok t := by
  rw [ht] at h
  split at h
  · cases h
  · exact h.symm

/-- **A single row against its repetition.** On types of the table, an operator makes the same of a
single row as of the row repeated to the length `n` of the other operand, whether that is a result,
of length `n`, or a failure; unless it is one of those that repeat the row themselves and `n` is
zero: then it refuses the single row, and has a result for no rows. Operands of two different
lengths, none of them one, are always refused. -/
theorem combine_broadcast (op : BinaryOp) (out : DataType) {l r : Series}
    (h : op.supports out l.dtype r.dtype = true) :
    (r.length = 1 → ∃ r', r.broadcast l.length = .ok r' ∧
      (l.combine op out r = l.combine op out r' ↔ ¬(l.length = 0 ∧ op.spreads out = true)) ∧
      (l.length = 0 → op.spreads out = true → l.combine op out r = invalid (.broadcast 0 1)) ∧
      (∀ t, l.combine op out r = .ok t → t.dtype = out ∧ t.length = l.length) ∧
      (l.dtype.isList = false → overflows op l r' = false → ∃ t, l.combine op out r' = .ok t)) ∧
    (l.length = 1 → ∃ l', l.broadcast r.length = .ok l' ∧
      (l.combine op out r = l'.combine op out r ↔ ¬(r.length = 0 ∧ op.spreads out = true)) ∧
      (r.length = 0 → op.spreads out = true → l.combine op out r = invalid (.broadcast 0 1)) ∧
      (∀ t, l.combine op out r = .ok t → t.dtype = out ∧ t.length = r.length) ∧
      (l.dtype.isList = false → overflows op l' r = false → ∃ t, l'.combine op out r = .ok t)) ∧
    (l.length ≠ r.length → l.length ≠ 1 → r.length ≠ 1 →
      ∃ cause, l.combine op out r = invalid cause) := by
  refine ⟨fun hr ↦ ?_, fun hl ↦ ?_, combine_eq_error h⟩
  -- The single row is written out to the other length. The rest compares the operator on the two,
  -- which differ in one case only, and the other half is the same with the sides exchanged.
  · obtain ⟨e, bs⟩ := r
    obtain ⟨x, rfl⟩ : ∃ x, bs = [x] := List.length_eq_one_iff.1 hr
    have hsingle := combine_single_right h x
    have hlen : l.length = (⟨e, List.replicate l.length x⟩ : Series).length :=
      List.length_replicate.symm
    refine ⟨⟨e, List.replicate l.length x⟩, broadcast_single x l.length, ?_, fun hl hs ↦ ?_,
      fun t ht ↦ ⟨dtype_combine ht, ?_⟩, exists_combine (r := ⟨e, _⟩) h hlen⟩
    · refine eq_iff_of_eq_ite hsingle fun hc ↦ ?_
      exact exists_combine_of_empty (r := ⟨e, _⟩) h hc.2 hc.1 (hlen.symm.trans hc.1)
    · rw [hsingle, if_pos ⟨hl, hs⟩]
    · exact length_combine hlen (eq_ok_of_eq_ite hsingle ht)
  · obtain ⟨d, as⟩ := l
    obtain ⟨x, rfl⟩ : ∃ x, as = [x] := List.length_eq_one_iff.1 hl
    have hsingle := combine_single_left h x
    have hlen : (⟨d, List.replicate r.length x⟩ : Series).length = r.length :=
      List.length_replicate
    refine ⟨⟨d, List.replicate r.length x⟩, broadcast_single x r.length, ?_, fun hr hs ↦ ?_,
      fun t ht ↦ ⟨dtype_combine ht, ?_⟩,
      exists_combine (l := ⟨d, List.replicate r.length x⟩) h hlen⟩
    · refine eq_iff_of_eq_ite hsingle fun hc ↦ ?_
      exact exists_combine_of_empty (l := ⟨d, _⟩) h hc.2 (hlen.trans hc.1) hc.1
    · rw [hsingle, if_pos ⟨hr, hs⟩]
    · exact (length_combine hlen (eq_ok_of_eq_ite hsingle ht)).trans hlen

/-- Two weights, one of which is not known. -/
def weights : Series := ⟨.int64, [some (FixedInt.wrap .int64 4), none]⟩

/-- A single weight. -/
def singleWeight : Series := ⟨.int64, [some (FixedInt.wrap .int64 3)]⟩

theorem combine_broadcast_weights :
    (∃ w t, singleWeight.broadcast 2 = .ok w ∧
      weights.combine (.arithmetic .floorDiv) .int64 singleWeight = .ok t ∧
      weights.combine (.arithmetic .floorDiv) .int64 w = .ok t ∧ t.length = 2) ∧
    (∃ w t, singleWeight.broadcast 2 = .ok w ∧
      singleWeight.combine (.arithmetic .floorDiv) .int64 weights = .ok t ∧
      w.combine (.arithmetic .floorDiv) .int64 weights = .ok t ∧ t.length = 2) ∧
    (empty .int64).combine (.arithmetic .floorDiv) .int64 singleWeight = invalid (.broadcast 0 1) ∧
    ∃ cause, (empty .int64).combine (.arithmetic .floorDiv) .int64 weights = invalid cause := by
  refine ⟨?_, ?_, ?_, ?_⟩
  · obtain ⟨w, hw, hagrees, -, hlength, hok⟩ := (combine_broadcast (.arithmetic .floorDiv) .int64
      (l := weights) (r := singleWeight) (by decide)).1 rfl
    cases hw
    have hagrees := hagrees.2 (by decide)
    obtain ⟨t, ht⟩ := hok rfl rfl
    exact ⟨_, t, rfl, hagrees.trans ht, ht, (hlength t (hagrees.trans ht)).2⟩
  · obtain ⟨w, hw, hagrees, -, hlength, hok⟩ := (combine_broadcast (.arithmetic .floorDiv) .int64
      (l := singleWeight) (r := weights) (by decide)).2.1 rfl
    cases hw
    have hagrees := hagrees.2 (by decide)
    obtain ⟨t, ht⟩ := hok rfl rfl
    exact ⟨_, t, rfl, hagrees.trans ht, ht, (hlength t (hagrees.trans ht)).2⟩
  · obtain ⟨w, -, -, hrefused, -⟩ := (combine_broadcast (.arithmetic .floorDiv) .int64
      (l := empty .int64) (r := singleWeight) (by decide)).1 rfl
    exact hrefused rfl rfl
  · exact (combine_broadcast (.arithmetic .floorDiv) .int64 (l := empty .int64) (r := weights)
      (by decide)).2.2 (by decide) (by decide) (by decide)

/-- A connective has a result for no rows beside a single row that was repeated no times, but none
beside the single row itself. -/
theorem not_combine_eq_combine_broadcast :
    ¬∀ (op : BinaryOp) (out : DataType) (l r r' : Series),
      op.supports out l.dtype r.dtype = true → r.length = 1 → r.broadcast l.length = .ok r' →
      l.combine op out r = l.combine op out r' := by
  intro h
  have heq := h (.logical .and) .boolean (empty .boolean) (ofFlags [some true]) (empty .boolean)
    (by decide) rfl rfl
  have herror : (empty .boolean).combine (.logical .and) .boolean (ofFlags [some true]) =
      invalid (.broadcast 0 1) := rfl
  have hok : (empty .boolean).combine (.logical .and) .boolean (empty .boolean) =
      .ok (empty .boolean) := rfl
  rw [herror, hok] at heq
  cases heq

end Combine

end Series

end Tabular
