import Tabular.Proofs.Rows.Conversion

/-!
# What the table of binary operators promises

`BinaryOp.supports` is written apart from the kernels that carry the operators out, each with
conversions of its own. The table promises no more than the kernels keep: operands of supported
types and of one length have a result of the promised type and length, and operands that the table
leaves out are refused (`Series.combine_of_length_eq`).

What the kernels need is that every row converts to the type in which the operator computes, and for
the types of the table it does (`convertsAllRows_of_isNumeric` and its kin); the rest is pairing
lists of one length (`Series.exists_apply`).

There is one condition that types cannot express. Sums and differences of timestamps and durations
are those of 64-bit ticks and do not wrap around, so that an operation that the table supports still
fails on operands with ticks that are too far from zero (`Series.overflows`). Integer arithmetic, to
the contrary, wraps around, and its divisions by zero are null.

Lists are left out. The table lists their comparisons, which no kernel carries out.
-/

namespace Tabular

namespace Series

variable {d e out : DataType} {s l r : Series}

/-! ### Operands of one length -/

/-- Operands of one length are left as they are. -/
theorem spread_of_length_eq (h : l.length = r.length) : l.spread r = .ok (l, r) := by
  rw [spread, h, Nat.max_self, broadcast_self h, broadcast_self rfl]
  rfl

/-- There is a tick for every row. -/
@[simp]
theorem length_ticks (s : Series) : s.ticks.length = s.length := by
  obtain ⟨d, rows⟩ := s
  rw [ticks_eq, List.length_map]
  rfl

/-! ### Kernels -/

/-- A comparison compares at the common type, to which all rows convert. -/
theorem exists_compare (c : Comparison) (hl : l.dtype.isList = false)
    (h : l.dtype = r.dtype ∨ l.dtype.isNumeric ∧ r.dtype.isNumeric ∨
      l.dtype.isText ∧ r.dtype.isText)
    (hlen : l.length = r.length) :
    ∃ flags, l.compare c r = .ok flags ∧ flags.length = l.length := by
  obtain ⟨hconvl, hconvr⟩ := convertsAllRows_comparedAs h
  obtain ⟨ls, hls, hlslen⟩ := exists_convertRows hconvl
  obtain ⟨rs, hrs, hrslen⟩ := exists_convertRows hconvr
  have hpair := pairRows_of_length_eq ((hlslen.trans hlen).trans hrslen.symm)
  refine ⟨_, (compare_eq_ok rfl).2 ⟨isList_comparedAs hl, _, ⟨ls, rs, hls, hrs, hpair⟩, rfl⟩, ?_⟩
  rw [List.length_map, List.length_zip, hlslen, hrslen, ← hlen, Nat.min_self]

/-- Operands that are brought to one length and converted. -/
theorem exists_spread_convertRows (hl : ConvertsAllRows l.dtype d) (hr : ConvertsAllRows r.dtype d)
    (hlen : l.length = r.length) :
    ∃ ls rs, l.convertRows d = .ok ls ∧ r.convertRows d = .ok rs ∧ l.spread r = .ok (l, r) ∧
      pairRows ls rs = .ok (ls.zip rs) ∧ (ls.zip rs).length = l.length := by
  obtain ⟨ls, hls, hlslen⟩ := exists_convertRows hl
  obtain ⟨rs, hrs, hrslen⟩ := exists_convertRows hr
  refine ⟨ls, rs, hls, hrs, spread_of_length_eq hlen, ?_, ?_⟩
  · exact pairRows_of_length_eq ((hlslen.trans hlen).trans hrslen.symm)
  · rw [List.length_zip, hlslen, hrslen, ← hlen, Nat.min_self]

/-- Truth values and integers can be paired as truth values. -/
theorem exists_flagPairs (hl : l.dtype = .boolean ∨ l.dtype.isInteger = true)
    (hr : r.dtype = .boolean ∨ r.dtype.isInteger = true) (hlen : l.length = r.length) :
    ∃ pairs, l.flagPairs r = .ok pairs ∧ pairs.length = l.length := by
  obtain ⟨ls, rs, hls, hrs, hspread, -, hziplen⟩ :=
    exists_spread_convertRows (convertsAllRows_boolean hl) (convertsAllRows_boolean hr) hlen
  refine ⟨ls.zip rs, ?_, hziplen⟩
  simp only [flagPairs, hspread, Outcome.ok_bind, hls, hrs]

/-- Integers can be paired as bits of another width. -/
theorem exists_bitwiseInts (b : Bitwise) (t : IntType) (hl : l.dtype.isInteger = true)
    (hr : r.dtype.isInteger = true) (hlen : l.length = r.length) :
    ∃ rows, l.bitwiseInts b t r = .ok rows ∧ rows.length = l.length := by
  have hnumeric {d : DataType} (hd : d.isInteger = true) : ConvertsAllRows d (.integer t) :=
    convertsAllRows_of_isNumeric (DataType.isNumeric_of_isInteger hd) rfl
  obtain ⟨ls, rs, hls, hrs, hspread, -, hziplen⟩ :=
    exists_spread_convertRows (hnumeric hl) (hnumeric hr) hlen
  refine ⟨(ls.zip rs).map (onBoth fun x y ↦ some (b.onInts x y)), ?_,
    (List.length_map _).trans hziplen⟩
  simp only [bitwiseInts, hspread, Outcome.ok_bind, hls, hrs]

/-- Numbers can be paired at any type of numbers, in whichever order they are brought to one length.
-/
theorem exists_operandPairs (op : Arithmetic) (hd : d.isNumeric = true)
    (hl : l.dtype.isNumeric = true) (hr : r.dtype.isNumeric = true) (hlen : l.length = r.length) :
    ∃ pairs, l.operandPairs op d r = .ok pairs ∧ pairs.length = l.length := by
  obtain ⟨ls, rs, hls, hrs, hspread, hpair, hziplen⟩ :=
    exists_spread_convertRows (convertsAllRows_of_isNumeric hl hd)
      (convertsAllRows_of_isNumeric hr hd) hlen
  refine ⟨ls.zip rs, ?_, hziplen⟩
  unfold operandPairs
  split
  · simp only [hspread, Outcome.ok_bind, hls, hrs]
  · simp only [Outcome.ok_bind, hls, hrs, hpair]

/-- Arithmetic of numbers has a result. A quotient is computed at double precision and then
converted. -/
theorem exists_calculate (op : Arithmetic) (hout : out.isNumeric = true)
    (hl : l.dtype.isNumeric = true) (hr : r.dtype.isNumeric = true) (hlen : l.length = r.length) :
    ∃ t, l.calculate op out r = .ok t ∧ t.length = l.length := by
  -- True division calculates over floats, and converting these to numbers cannot fail.
  by_cases hop : op = .trueDiv
  · subst hop
    obtain ⟨pairs, hpairs, hpairslen⟩ :=
      exists_operandPairs .trueDiv (d := .float64) rfl hl hr hlen
    obtain ⟨rows, hrows, hrowslen⟩ := exists_convertRows (e := out)
      (s := ⟨.float64, pairs.map (onBoth fun a b ↦ some (a.div b))⟩)
      (convertsAllRows_of_isNumeric rfl hout)
    refine ⟨⟨out, rows⟩, ?_, (hrowslen.trans (List.length_map _)).trans hpairslen⟩
    simp only [calculate, hpairs, Outcome.ok_bind, convert, hrows]
  · obtain ⟨pairs, hpairs, hpairslen⟩ := exists_operandPairs op hout hl hr hlen
    cases out with
    | integer t =>
      refine ⟨⟨.integer t, pairs.map (onBoth op.onInts)⟩, ?_, (List.length_map _).trans hpairslen⟩
      cases op <;> first | exact absurd rfl hop | simp only [calculate, hpairs, Outcome.ok_bind]
    | float t =>
      refine ⟨⟨.float t, pairs.map (onBoth fun a b ↦ some (op.onFloats a b))⟩, ?_,
        (List.length_map _).trans hpairslen⟩
      cases op <;> first | exact absurd rfl hop | simp only [calculate, hpairs, Outcome.ok_bind]
    | _ => cases hout

/-! ### Ticks -/

end Series

/-- Whether 64 bits hold the sum or difference of two rows of ticks. -/
def Arithmetic.fits (op : Arithmetic) : Option Int × Option Int → Bool
  | (some a, some b) =>
    let ticks := if op = .sub then a - b else a + b
    IntType.int64.min ≤ ticks && ticks ≤ IntType.int64.max
  | _ => true

namespace Series

variable {d e out : DataType} {s l r : Series}

/-- Whether the operator adds or subtracts ticks and some row of the result does not fit. -/
def overflows (op : BinaryOp) (l r : Series) : Bool :=
  match op with
  | .arithmetic a =>
    (op.temporalResult? l.dtype r.dtype).isSome && !(l.ticks.zip r.ticks).all a.fits
  | _ => false

/-- What 64 bits hold is a row of ticks, and so is a missing one. -/
theorem exists_shiftRow {op : Arithmetic} {p : Option Int × Option Int} (h : op.fits p = true) :
    ∃ row, shiftRow op p = .ok row := by
  obtain ⟨_ | a, _ | b⟩ := p
  · exact ⟨none, rfl⟩
  · exact ⟨none, rfl⟩
  · exact ⟨none, rfl⟩
  · simp only [Arithmetic.fits, Bool.and_eq_true, decide_eq_true_eq] at h
    simp only [shiftRow, Arithmetic.onTicks, FixedInt.ofInt?, dif_pos h]
    exact ⟨_, rfl⟩

/-- What they do not hold is a failure, and of one kind. -/
theorem shiftRow_eq_error {op : Arithmetic} {p : Option Int × Option Int}
    (h : op.fits p = false) : shiftRow op p = kernelFault .overflow := by
  obtain ⟨_ | a, _ | b⟩ := p
  · cases h
  · cases h
  · cases h
  · have h : ¬(IntType.int64.min ≤ (if op = .sub then a - b else a + b) ∧
        (if op = .sub then a - b else a + b) ≤ IntType.int64.max) := by
      simpa only [Arithmetic.fits, Bool.and_eq_false_iff, decide_eq_false_iff_not,
        ← not_and_or] using h
    simp only [shiftRow, Arithmetic.onTicks, FixedInt.ofInt?, dif_neg h]
    rfl

/-- Numbers have no ticks. -/
theorem temporalResult?_of_isNumeric {op : BinaryOp} (hd : d.isNumeric = true) :
    op.temporalResult? d e = none := by
  cases d with
  | integer _ | float _ => cases op with
    | arithmetic a => cases a <;> rfl
    | _ => rfl
  | _ => cases hd

/-- The type of a sum or difference of ticks is one of ticks. -/
theorem exists_ofTicks {op : BinaryOp} (h : op.temporalResult? d e = some out)
    (ticks : List (Option (FixedInt .int64))) :
    ∃ t, ofTicks out ticks = .ok t ∧ t.length = ticks.length := by
  unfold BinaryOp.temporalResult? at h
  split at h <;> first
    | cases h
    | (split at h <;> cases h; exact ⟨_, rfl, rfl⟩)

/-- Ticks that fit are added and subtracted. -/
theorem exists_shiftTicks {op : Arithmetic}
    (hout : (BinaryOp.arithmetic op).temporalResult? l.dtype r.dtype = some out)
    (hlen : l.length = r.length) (hfits : (l.ticks.zip r.ticks).all op.fits = true) :
    ∃ t, l.shiftTicks op out r = .ok t ∧ t.length = l.length := by
  have hticks : l.ticks.length = r.ticks.length := by rw [length_ticks, length_ticks, hlen]
  obtain ⟨rows, hrows⟩ : ∃ rows, (l.ticks.zip r.ticks).mapM (shiftRow op) = .ok rows :=
    Outcome.exists_mapM_eq_ok fun p hp ↦ exists_shiftRow (List.all_eq_true.1 hfits p hp)
  obtain ⟨t, ht, htlen⟩ := exists_ofTicks hout rows
  refine ⟨t, ?_, ?_⟩
  · simp only [shiftTicks, pairRows_of_length_eq hticks, Outcome.ok_bind]
    exact Outcome.bind_eq_ok.2 ⟨rows, hrows, ht⟩
  · rw [htlen, ← (Outcome.mapM_eq_ok.1 hrows).length_eq, List.length_zip, ← hticks, Nat.min_self,
      length_ticks]

/-- One row that does not fit fails the whole: the others give ticks or fail in the same way. -/
theorem shiftTicks_eq_error {op : Arithmetic} (hlen : l.length = r.length)
    (hfits : (l.ticks.zip r.ticks).all op.fits = false) :
    l.shiftTicks op out r = kernelFault .overflow := by
  have hticks : l.ticks.length = r.ticks.length := by rw [length_ticks, length_ticks, hlen]
  obtain ⟨p, hp, hpfits⟩ := List.all_eq_false.1 hfits
  have hrows : (l.ticks.zip r.ticks).mapM (shiftRow op) = kernelFault .overflow := by
    refine Outcome.mapM_eq_error (fun q _ ↦ ?_) hp (shiftRow_eq_error (Bool.eq_false_iff.2 hpfits))
    cases hq : op.fits q with
    | true => exact .inl (exists_shiftRow hq)
    | false => exact .inr (shiftRow_eq_error hq)
  simp only [shiftTicks, pairRows_of_length_eq hticks, Outcome.ok_bind]
  exact congrArg (· >>= ofTicks out) hrows

/-! ### Operators -/

/-- On types of the table the kernels succeed, unless ticks overflow. -/
theorem exists_apply {op : BinaryOp} (hl : l.dtype.isList = false) (hlen : l.length = r.length)
    (hsupports : op.supports out l.dtype r.dtype = true) (hfits : overflows op l r = false) :
    ∃ t, l.apply op out r = .ok t ∧ t.length = l.length := by
  cases op with
  | comparison c =>
    have hsupports : l.dtype = r.dtype ∨ l.dtype.isNumeric ∧ r.dtype.isNumeric ∨
        l.dtype.isText ∧ r.dtype.isText := by
      simpa only [BinaryOp.supports, Bool.and_eq_true, Bool.or_eq_true, decide_eq_true_eq,
        or_assoc] using (Bool.and_eq_true_iff.1 hsupports).2
    obtain ⟨flags, hflags, hflagslen⟩ := exists_compare c hl hsupports hlen
    refine ⟨ofFlags flags, ?_, hflagslen⟩
    simp only [apply, hflags, Outcome.ok_bind]
  | logical c =>
    simp only [BinaryOp.supports, Bool.and_eq_true, Bool.or_eq_true, decide_eq_true_eq]
      at hsupports
    obtain ⟨pairs, hpairs, hpairslen⟩ := exists_flagPairs hsupports.1.2 hsupports.2 hlen
    refine ⟨ofFlags (pairs.map c.onRows), ?_, (List.length_map _).trans hpairslen⟩
    simp only [apply, connect, hpairs, Outcome.ok_bind]
  | bitwise b =>
    simp only [BinaryOp.supports, Bool.and_eq_true, Bool.or_eq_true, decide_eq_true_eq]
      at hsupports
    -- Bitwise operators are supported over integers, and over booleans as connectives.
    rcases hsupports with ⟨⟨hout, hl⟩, hr⟩ | ⟨⟨rfl, hl⟩, hr⟩
    · cases out with
      | integer t =>
        obtain ⟨rows, hrows, hrowslen⟩ := exists_bitwiseInts b t hl hr hlen
        refine ⟨⟨.integer t, rows⟩, ?_, hrowslen⟩
        simp only [apply, hrows, Outcome.ok_bind]
      | _ => cases hout
    · obtain ⟨pairs, hpairs, hpairslen⟩ := exists_flagPairs (.inl hl) (.inl hr) hlen
      refine ⟨ofFlags (pairs.map b.onFlags), ?_, (List.length_map _).trans hpairslen⟩
      simp only [apply, bitwiseFlags, hpairs, Outcome.ok_bind]
  | arithmetic a =>
    simp only [BinaryOp.supports] at hsupports
    split at hsupports
    · next hnumeric =>
      obtain ⟨hlnum, hrnum⟩ := Bool.and_eq_true_iff.1 hnumeric
      simp only [apply, temporalResult?_of_isNumeric hlnum]
      exact exists_calculate a hsupports hlnum hrnum hlen
    · have htemporal := of_decide_eq_true hsupports
      simp only [overflows, htemporal, Option.isSome_some, Bool.true_and, Bool.not_eq_false']
        at hfits
      simp only [apply, htemporal, Option.isSome_some, if_true]
      exact exists_shiftTicks htemporal hlen hfits

/-- Ticks that overflow are the failure of the kernel of sums and differences. -/
theorem apply_eq_overflow {op : BinaryOp} (hlen : l.length = r.length)
    (hover : overflows op l r = true) : l.apply op out r = kernelFault .overflow := by
  cases op with
  | arithmetic a =>
    simp only [overflows, Bool.and_eq_true, Bool.not_eq_true'] at hover
    simp only [apply, if_pos hover.1]
    exact shiftTicks_eq_error hlen hover.2
  | _ => cases hover

/-- **The table of binary operators against the kernels.** Operands of one length, the left one no
series of lists, are combined if the table has their types, with a result of the type that is asked
for and of their length, unless the operator adds or subtracts ticks that overflow. Types that the
table does not have are refused. -/
theorem combine_of_length_eq (op : BinaryOp) (out : DataType) {l r : Series}
    (hl : l.dtype.isList = false) (hlen : l.length = r.length) :
    (op.supports out l.dtype r.dtype = true → overflows op l r = false →
      ∃ t, l.combine op out r = .ok t ∧ t.dtype = out ∧ t.length = l.length) ∧
    (op.supports out l.dtype r.dtype = true → overflows op l r = true →
      l.combine op out r = kernelFault .overflow) ∧
    (op.supports out l.dtype r.dtype = false →
      l.combine op out r = unsupported (.binary op.name l.dtype r.dtype out)) := by
  refine ⟨fun hsupports hfits ↦ ?_, fun hsupports hover ↦ ?_, fun hsupports ↦ ?_⟩
  · obtain ⟨t, ht, htlen⟩ := exists_apply hl hlen hsupports hfits
    have hcombine : l.combine op out r = .ok t := (if_pos hsupports).trans ht
    exact ⟨t, hcombine, dtype_combine hcombine, htlen⟩
  · exact (if_pos hsupports).trans (apply_eq_overflow hlen hover)
  · exact if_neg (Bool.eq_false_iff.1 hsupports)

/-- One microsecond. -/
def microsecond : Series := ⟨.duration .microsecond, [some (FixedInt.wrap .int64 1)]⟩

/-- The longest time that is counted in microseconds. -/
def longestDuration : Series :=
  ⟨.duration .microsecond, [some (FixedInt.wrap .int64 IntType.int64.max)]⟩

/-- A microsecond can be added to another, but not to the longest duration, and not multiplied. -/
theorem combine_of_length_eq_durations :
    (∃ t, microsecond.combine (.arithmetic .add) (.duration .microsecond) microsecond = .ok t ∧
      t.dtype = .duration .microsecond ∧ t.length = 1) ∧
    longestDuration.combine (.arithmetic .add) (.duration .microsecond) microsecond =
      kernelFault .overflow ∧
    microsecond.combine (.arithmetic .mul) (.duration .microsecond) microsecond =
      unsupported (.binary "MUL" (.duration .microsecond) (.duration .microsecond)
        (.duration .microsecond)) :=
  ⟨(combine_of_length_eq (.arithmetic .add) (.duration .microsecond) (l := microsecond) rfl rfl).1
      (by decide) (by decide),
    (combine_of_length_eq (.arithmetic .add) (.duration .microsecond) (l := longestDuration)
      rfl rfl).2.1 (by decide) (by decide),
    (combine_of_length_eq (.arithmetic .mul) (.duration .microsecond) (l := microsecond)
      (r := microsecond) rfl rfl).2.2 (by decide)⟩

/-- The types alone do not decide: the table has the sum of two durations, but there is none of the
longest one and a microsecond. -/
theorem not_supports_imp_combine :
    ¬∀ (op : BinaryOp) (out : DataType) (l r : Series), l.dtype.isList = false →
      r.dtype.isList = false → l.length = r.length →
      op.supports out l.dtype r.dtype = true →
      ∃ t, l.combine op out r = .ok t ∧ t.dtype = out ∧ t.length = l.length := by
  intro h
  obtain ⟨t, ht, -⟩ := h (.arithmetic .add) (.duration .microsecond) longestDuration microsecond
    rfl rfl rfl (by decide)
  have hfault : longestDuration.combine (.arithmetic .add) (.duration .microsecond) microsecond =
      kernelFault .overflow := rfl
  rw [hfault] at ht
  cases ht

end Series

end Tabular
