import Tabular.Proofs.Failures.Operators
import Tabular.Proofs.Rows.Sums

/-!
# Division of integers

Quotients and remainders of fixed-width integers come from the quotient toward zero. Where its
remainder and the divisor are on different sides of zero, the quotient is one too great and the
remainder a divisor short. After that adjustment the two obey the division law of quotients toward
negative infinity (`FixedInt.exists_divides`), and so do series of them, row by row
(`Series.combine_floorDiv_floorMod`).

One quotient does not fit its type, that of the least signed integer by `-1`. It wraps around, and
its remainder is zero. Everything else is computed exactly, the adjustments included: a quotient
that is adjusted has a divisor of size two at least, and so is far from the ends of the type
(`natAbs_tdiv_le_half`).
-/

namespace Tabular

/-! ### The quotient toward zero -/

/-- The remainder of the quotient toward zero is smaller than the divisor, no greater than the
dividend and on its side of zero. -/
theorem tmod_bounds (a : Int) {b : Int} (hb : b ≠ 0) :
    (a.tmod b).natAbs < b.natAbs ∧ (a.tmod b).natAbs ≤ a.natAbs ∧ (0 ≤ a → 0 ≤ a.tmod b) ∧
      (a ≤ 0 → a.tmod b ≤ 0) := by
  have hmod := Int.natAbs_tmod a b
  refine ⟨?_, ?_, Int.tmod_nonneg b, fun ha ↦ ?_⟩
  · rw [hmod]
    exact Nat.mod_lt _ (by omega)
  · rw [hmod]
    exact Nat.mod_le _ _
  · have hneg := Int.tmod_nonneg b (Int.neg_nonneg_of_nonpos ha)
    rw [Int.neg_tmod] at hneg
    omega

/-- Divisors of size two at least leave half of the dividend. -/
theorem natAbs_tdiv_le_half (a : Int) {b : Int} (hb : 2 ≤ b.natAbs) :
    (a.tdiv b).natAbs ≤ a.natAbs / 2 := by
  rw [Int.natAbs_tdiv]
  exact Nat.div_le_div_left hb (by decide)

namespace FixedInt

variable {t : IntType} {a b : FixedInt t}

/-- The remainder is computed exactly. -/
theorem toInt_rem (hb : b.toInt ≠ 0) : (a.rem b).toInt = a.toInt.tmod b.toInt := by
  obtain ⟨-, hle, hpos, hneg⟩ := tmod_bounds a.toInt hb
  have hmin := t.min_le_zero
  have hmax := t.zero_le_max
  have halo := a.min_le
  have hahi := a.le_max
  -- between zero and the dividend, and so within the type
  exact wrapInt_eq_self (by omega) (by omega)

/-- What the adjustment looks at: a remainder that is not zero and a divisor on the other side. -/
theorem opposes_rem_iff (hb : b.toInt ≠ 0) :
    (a.rem b).opposes b = true ↔
      0 < a.toInt.tmod b.toInt ∧ b.toInt < 0 ∨ a.toInt.tmod b.toInt < 0 ∧ 0 < b.toInt := by
  simp only [opposes, toInt_rem hb, Bool.and_eq_true, decide_eq_true_eq, bne_iff_ne, ne_eq,
    decide_eq_decide]
  omega

/-- The remainder that was adjusted is computed exactly. -/
theorem toInt_rem_add (hb : b.toInt ≠ 0) (h : (a.rem b).opposes b = true) :
    ((a.rem b).add b).toInt = a.toInt.tmod b.toInt + b.toInt := by
  obtain ⟨hlt, -⟩ := tmod_bounds a.toInt hb
  have hmin := t.min_le_zero
  have hmax := t.zero_le_max
  have hblo := b.min_le
  have hbhi := b.le_max
  rw [opposes_rem_iff hb] at h
  show wrapInt t ((a.rem b).toInt + b.toInt) = _
  rw [toInt_rem hb]
  exact wrapInt_eq_self (by omega) (by omega)

/-- The quotient toward zero fits, unless it is that of the least integer by `-1`. -/
theorem toInt_div (hb : b.toInt ≠ 0) (h : ¬(a.toInt = t.min ∧ b.toInt = -1)) :
    (a.div b).toInt = a.toInt.tdiv b.toInt := by
  have hmin := t.min_eq
  have hmax := t.one_le_max
  have halo := a.min_le
  have hahi := a.le_max
  have hblo := b.min_le
  obtain hone | hone | htwo : b.toInt = 1 ∨ b.toInt = -1 ∨ 2 ≤ b.toInt.natAbs := by omega
  · refine wrapInt_eq_self ?_ ?_ <;> rw [hone, Int.tdiv_one] <;> assumption
  · refine wrapInt_eq_self ?_ ?_ <;> rw [hone, Int.tdiv_neg, Int.tdiv_one] <;> omega
  · have hhalf := natAbs_tdiv_le_half a.toInt htwo
    have hnonneg : 0 ≤ a.toInt → 0 ≤ b.toInt → 0 ≤ a.toInt.tdiv b.toInt := Int.tdiv_nonneg
    exact wrapInt_eq_self (by omega) (by omega)

/-- The quotient that was adjusted is computed exactly. -/
theorem toInt_div_sub (hb : b.toInt ≠ 0) (h : (a.rem b).opposes b = true) :
    ((a.div b).sub (wrap t 1)).toInt = a.toInt.tdiv b.toInt - 1 := by
  have hmin := t.min_eq
  have hmax := t.one_le_max
  have halo := a.min_le
  have hahi := a.le_max
  have hblo := b.min_le
  obtain ⟨hlt, -, hpos, -⟩ := tmod_bounds a.toInt hb
  rw [opposes_rem_iff hb] at h
  -- a divisor of size one has no remainder
  have htwo : 2 ≤ b.toInt.natAbs := by omega
  have hhalf := natAbs_tdiv_le_half a.toInt htwo
  have hone : (wrap t 1).toInt = 1 := wrapInt_eq_self (by omega) hmax
  show wrapInt t ((a.div b).toInt - (wrap t 1).toInt) = _
  rw [toInt_div hb (by omega), hone]
  exact wrapInt_eq_self (by omega) (by omega)

/-! ### The division law -/

/-- The law of a division: what the quotient leaves of the dividend is the remainder, which is
smaller than the divisor and, unless it is zero, on its side of zero. The least integer divided by
`-1` is left to wrap around. -/
structure Divides (a b q r : FixedInt t) : Prop where
  exact : ¬(a.toInt = t.min ∧ b.toInt = -1) → q.toInt * b.toInt + r.toInt = a.toInt
  modEq : q.toInt * b.toInt + r.toInt ≡ a.toInt [ZMOD twoTo t.width]
  abs_lt : |r.toInt| < |b.toInt|
  sign_eq : r.toInt = 0 ∨ r.toInt.sign = b.toInt.sign

/-- Integers on one side of zero have one sign. -/
theorem sign_eq_sign {i j : Int} (h : 0 < i ∧ 0 < j ∨ i < 0 ∧ j < 0) : i.sign = j.sign := by
  rcases h with ⟨hi, hj⟩ | ⟨hi, hj⟩
  · rw [Int.sign_eq_one_of_pos hi, Int.sign_eq_one_of_pos hj]
  · rw [Int.sign_eq_neg_one_of_neg hi, Int.sign_eq_neg_one_of_neg hj]

/-- **The division law of two integers.** A divisor that is not zero has a quotient and a remainder
that obey it. -/
theorem exists_divides (a : FixedInt t) (hb : b.toInt ≠ 0) :
    ∃ q r, a.floorDiv? b = some q ∧ a.floorMod? b = some r ∧ Divides a b q r := by
  have hlaw := Int.tdiv_mul_add_tmod a.toInt b.toInt
  obtain ⟨hlt, -⟩ := tmod_bounds a.toInt hb
  rw [floorDiv?, floorMod?, if_neg hb, if_neg hb]
  -- Truncated division already satisfies the law; when the remainder has the wrong sign the divisor
  -- is added to it once and the quotient goes down by one.
  by_cases h : (a.rem b).opposes b = true
  · have hopposes := (opposes_rem_iff hb).1 h
    rw [if_pos h, if_pos h]
    have hadjusted : (a.toInt.tdiv b.toInt - 1) * b.toInt + (a.toInt.tmod b.toInt + b.toInt) =
        a.toInt := by
      rw [Int.sub_mul, Int.one_mul]
      omega
    refine ⟨_, _, rfl, rfl, ?_⟩
    constructor <;> rw [toInt_rem_add hb h]
    · rw [toInt_div_sub hb h]
      exact fun _ ↦ hadjusted
    · rw [toInt_div_sub hb h, hadjusted]
    · rw [Int.abs_eq_natAbs, Int.abs_eq_natAbs]
      omega
    · exact .inr (sign_eq_sign (by omega))
  · have hopposes := mt (opposes_rem_iff hb).2 h
    rw [if_neg h, if_neg h]
    refine ⟨_, _, rfl, rfl, ?_⟩
    constructor <;> rw [toInt_rem hb]
    -- The quotient of the least value by -1 does not fit, so the law is stated modulo the width
    -- too.
    · intro hfits
      rw [toInt_div hb hfits, hlaw]
    · have hquotient := (wrapInt_modEq t (a.toInt.tdiv b.toInt)).mul_right b.toInt
      exact (hquotient.add_right _).trans (by rw [hlaw])
    · rw [Int.abs_eq_natAbs, Int.abs_eq_natAbs]
      omega
    · by_cases hzero : a.toInt.tmod b.toInt = 0
      · exact .inl hzero
      · exact .inr (sign_eq_sign (by omega))

/-- The division law of two rows: there is no quotient and no remainder exactly where an operand is
null or the divisor is zero. -/
structure DividesRow (a b q r : Option (FixedInt t)) : Prop where
  quotient_eq_none : q = none ↔ a = none ∨ b = none ∨ b.map toInt = some 0
  remainder_eq_none : r = none ↔ a = none ∨ b = none ∨ b.map toInt = some 0
  divides : ∀ a' ∈ a, ∀ b' ∈ b, ∀ q' ∈ q, ∀ r' ∈ r, Divides a' b' q' r'

/-- The law holds of every pair of rows, with nulls where an operand is null or the divisor zero. -/
theorem dividesRow_onBoth (a b : Option (FixedInt t)) :
    DividesRow a b (onBoth floorDiv? (a, b)) (onBoth floorMod? (a, b)) := by
  cases a with
  | none => exact ⟨iff_of_true rfl (.inl rfl), iff_of_true rfl (.inl rfl), nofun⟩
  | some a =>
    cases b with
    | none =>
      exact ⟨iff_of_true rfl (.inr (.inl rfl)), iff_of_true rfl (.inr (.inl rfl)), fun _ _ ↦ nofun⟩
    | some b =>
      by_cases hb : b.toInt = 0
      · have hq : a.floorDiv? b = none := if_pos hb
        have hr : a.floorMod? b = none := if_pos hb
        have hzero : (some b).map toInt = some 0 := congrArg some hb
        refine ⟨iff_of_true hq (.inr (.inr hzero)), iff_of_true hr (.inr (.inr hzero)), ?_⟩
        rintro _ - _ - q hmem
        cases hq.symm.trans hmem
      · obtain ⟨q, r, hq, hr, hlaw⟩ := exists_divides a hb
        have hnull : ¬((some a : Option (FixedInt t)) = none ∨ some b = none ∨
            (some b).map toInt = some 0) := by
          rintro (h | h | h)
          · cases h
          · cases h
          · exact hb (Option.some.inj h)
        simp only [onBoth, hq, hr]
        refine ⟨iff_of_false nofun hnull, iff_of_false nofun hnull, ?_⟩
        rintro _ ⟨⟩ _ ⟨⟩ _ ⟨⟩ _ ⟨⟩
        exact hlaw

end FixedInt

namespace Series

variable {t : IntType} {as bs : List (Option (FixedInt t))} {n : Nat}

/-- Arithmetic on integers of one type, in that type, works on the pairs of operands. -/
theorem combine_of_operandPairs {op : Arithmetic} (hop : op ≠ .trueDiv)
    {ps : List (Option (FixedInt t) × Option (FixedInt t))}
    (h : operandPairs op (.integer t) ⟨.integer t, as⟩ ⟨.integer t, bs⟩ = .ok ps) :
    combine (.arithmetic op) (.integer t) ⟨.integer t, as⟩ ⟨.integer t, bs⟩ =
      .ok ⟨.integer t, ps.map (onBoth op.onInts)⟩ := by
  have hsupports :
      (BinaryOp.arithmetic op).supports (.integer t) (.integer t) (.integer t) = true := rfl
  rw [combine, if_pos hsupports, apply, temporalResult?_of_isNumeric rfl]
  cases op <;> first
    | exact absurd rfl hop
    | simp only [calculate, h, Outcome.ok_bind, Option.isSome_none, Bool.false_eq_true, if_false]

/-- The operands are the rows, paired, if there are any. -/
theorem combine_integers {op : Arithmetic} (hop : op ≠ .trueDiv)
    {ps : List (Option (FixedInt t) × Option (FixedInt t))} (h : pairRows as bs = .ok ps)
    (hne : ps ≠ []) :
    combine (.arithmetic op) (.integer t) ⟨.integer t, as⟩ ⟨.integer t, bs⟩ =
      .ok ⟨.integer t, ps.map (onBoth op.onInts)⟩ := by
  have hself (p) : convertPair (.integer t) (.integer t) (.integer t) (.integer t) p = .ok p :=
    onPair_eq_ok.2 ⟨dif_pos rfl, dif_pos rfl⟩
  refine combine_of_operandPairs hop ?_
  refine (operandPairs_eq_ok (d := .integer t) (e := .integer t) h hne op).2 ?_
  rw [funext hself, mapM_ok, List.map_id']

/-- Sums and products are of the rows, paired, even if there are none. -/
theorem combine_integers_of_not_spreads {op : Arithmetic} (hop : op.spreads (.integer t) = false)
    (hdiv : op ≠ .trueDiv) {ps : List (Option (FixedInt t) × Option (FixedInt t))}
    (h : pairRows as bs = .ok ps) :
    combine (.arithmetic op) (.integer t) ⟨.integer t, as⟩ ⟨.integer t, bs⟩ =
      .ok ⟨.integer t, ps.map (onBoth op.onInts)⟩ := by
  refine combine_of_operandPairs hdiv ?_
  rw [operandPairs, if_neg (Bool.eq_false_iff.1 hop), convertRows_self, convertRows_self]
  exact h

/-- **The division law of two series**, one of which may be a single row that divides, or is divided
by, each row of the other. -/
theorem combine_floorDiv_floorMod (t : IntType) {as bs : List (Option (FixedInt t))} (hn : 0 < n)
    (ha : Fits as n) (hb : Fits bs n) (hlen : as.length = n ∨ bs.length = n) :
    ∃ qs rs : List (Option (FixedInt t)),
      combine (.arithmetic .floorDiv) (.integer t) ⟨.integer t, as⟩ ⟨.integer t, bs⟩ =
        .ok ⟨.integer t, qs⟩ ∧
      combine (.arithmetic .floorMod) (.integer t) ⟨.integer t, as⟩ ⟨.integer t, bs⟩ =
        .ok ⟨.integer t, rs⟩ ∧
      qs.length = n ∧ rs.length = n ∧
      ∀ i < n, ∀ a b, rowAt as i = some a → rowAt bs i = some b →
        ∃ q r, qs[i]? = some q ∧ rs[i]? = some r ∧ FixedInt.DividesRow a b q r := by
  obtain ⟨ps, hps, -⟩ := ha.exists_pairRows hb
  have hpslen : ps.length = n := length_pairRows hps ha hb hlen
  have hne : ps ≠ [] := List.ne_nil_of_length_pos (hpslen ▸ hn)
  refine ⟨_, _, combine_integers (by decide) hps hne, combine_integers (by decide) hps hne,
    (List.length_map _).trans hpslen, (List.length_map _).trans hpslen, fun i hi a b hai hbi ↦ ?_⟩
  have hpair : ps[i]? = some (a, b) := getElem?_pairRows hps (hpslen.symm ▸ hi) hai hbi
  exact ⟨_, _, by rw [List.getElem?_map, hpair]; rfl, by rw [List.getElem?_map, hpair]; rfl,
    FixedInt.dividesRow_onBoth a b⟩

/-- Balances of eight bits, the least possible among them. -/
def balances : List (Option (FixedInt .int8)) :=
  [some (FixedInt.wrap .int8 (-128)), some (FixedInt.wrap .int8 (-7)), none,
    some (FixedInt.wrap .int8 5)]

/-- Numbers of parts to divide them into. -/
def parts : List (Option (FixedInt .int8)) :=
  [some (FixedInt.wrap .int8 (-1)), some (FixedInt.wrap .int8 2), some (FixedInt.wrap .int8 3),
    some (FixedInt.wrap .int8 0)]

/-- Balances divided into parts, one of them the least possible by `-1`. -/
theorem combine_floorDiv_floorMod_balances :
    ∃ qs rs : List (Option (FixedInt .int8)),
      combine (.arithmetic .floorDiv) (.integer .int8) ⟨.integer .int8, balances⟩
        ⟨.integer .int8, parts⟩ = .ok ⟨.integer .int8, qs⟩ ∧
      combine (.arithmetic .floorMod) (.integer .int8) ⟨.integer .int8, balances⟩
        ⟨.integer .int8, parts⟩ = .ok ⟨.integer .int8, rs⟩ ∧
      qs.length = 4 ∧ rs.length = 4 ∧
      ∃ q r, qs[1]? = some q ∧ rs[1]? = some r ∧
        FixedInt.DividesRow (some (FixedInt.wrap .int8 (-7))) (some (FixedInt.wrap .int8 2))
          q r := by
  have hbalances : Fits balances 4 := .inl rfl
  have hparts : Fits parts 4 := .inl rfl
  obtain ⟨qs, rs, hq, hr, hqlen, hrlen, hrows⟩ :=
    combine_floorDiv_floorMod .int8 (by decide) hbalances hparts (.inl rfl)
  exact ⟨qs, rs, hq, hr, hqlen, hrlen, hrows 1 (by decide) _ _ rfl rfl⟩

end Series

end Tabular
