import Tabular.Proofs.Order.Operators
import Tabular.Proofs.Order.Rounding

/-!
# Comparisons of integers

Integers of two types are compared as what they are, if there is an integer type that holds both.
There is none for unsigned integers of 64 bits and signed ones (`IntType.Mixed`). These are compared
as floating-point numbers of 64 bits, of which there are fewer. The nearest numbers of two integers
are in the order of the integers or the same (`Binary.compare_orderKey_ofInt`), so such a comparison
takes different integers for equal (`Series.not_combine_eq_truth`), but never turns them round.

It does so only beyond `2 ^ 53`. A smaller integer is its own nearest number
(`Binary.absValue_ofInt`): it has no more bits than a significand, and so there is a scale at which
nothing is rounded. `Series.combine_comparison_integers` says all of this of the operator.
-/

namespace Tabular

namespace Binary

variable {t : FloatType} {num den k : Nat} {q : ℤ}

/-! ### Integers that are floating-point numbers -/

/-- Only one binade holds a ratio. -/
theorem ratioLog2_eq (hnum : num ≠ 0) (hden : 0 < den) (hlo : (2 : ℚ) ^ q ≤ num / den)
    (hhi : (num / den : ℚ) < 2 ^ (q + 1)) : ratioLog2 num den = q := by
  obtain ⟨hlo', hhi'⟩ := ratioLog2_spec hnum hden
  have hle := (zpow_lt_zpow_iff_right₀ (one_lt_two (α := ℚ))).1 (hlo'.trans_lt hhi)
  have hge := (zpow_lt_zpow_iff_right₀ (one_lt_two (α := ℚ))).1 (hlo.trans_lt hhi')
  omega

/-- The nearest pattern of a ratio with no more bits than a significand has these bits. -/
theorem roundedMagnitude_scaled (hden : 0 < den) (h : (num / den : ℚ) = k * 2 ^ q)
    (hlo : twoTo t.fractionBits ≤ k) (hhi : k < 2 * twoTo t.fractionBits)
    (hq : t.minExponent ≤ q)
    (hfinite : (q - t.minExponent).toNat * twoTo t.fractionBits + k ≤ infMagnitude t) :
    roundedMagnitude t num den = (q - t.minExponent).toNat * twoTo t.fractionBits + k := by
  have hpos : (0 : ℚ) < 2 ^ q := by positivity
  have hnum : num ≠ 0 := by
    rintro rfl
    have hk : (0 : ℚ) < k := by exact_mod_cast (twoTo_pos _).trans_le hlo
    rw [Nat.cast_zero, zero_div] at h
    exact (mul_pos hk hpos).ne h
  -- A significand of full length puts the ratio between two neighbouring powers of two.
  have hlog : ratioLog2 num den = t.fractionBits + q := by
    have hlo' : (2 : ℚ) ^ t.fractionBits ≤ k := by exact_mod_cast hlo
    have hhi' : (k : ℚ) < 2 * 2 ^ t.fractionBits := by exact_mod_cast hhi
    refine ratioLog2_eq hnum hden ?_ ?_
    · rw [h, zpow_add₀ two_ne_zero, zpow_natCast]
      gcongr
    · rw [h, zpow_add_one₀ two_ne_zero, zpow_add₀ two_ne_zero, zpow_natCast, mul_right_comm,
        mul_comm _ (2 : ℚ)]
      gcongr
  have hscale : ratioScale t num den = q := by
    rw [ratioScale, hlog, add_sub_cancel_left, max_eq_right hq]
  have hsignificand : significand num den q = k :=
    (significand_le hden h.le).antisymm (le_significand hden h.ge)
  rw [roundedMagnitude, if_neg hnum, hscale, hsignificand]
  exact Nat.min_eq_left hfinite

/-- And it has the value of the ratio. -/
theorem absValue_ofRatio_scaled (hden : 0 < den) (h : (num / den : ℚ) = k * 2 ^ q)
    (hlo : twoTo t.fractionBits ≤ k) (hhi : k < 2 * twoTo t.fractionBits)
    (hq : t.minExponent ≤ q)
    (hfinite : (q - t.minExponent).toNat * twoTo t.fractionBits + k ≤ infMagnitude t)
    (negative : Bool) : (ofRatio negative num den : Binary t).absValue = num / den := by
  have hmagnitude : (ofRatio negative num den : Binary t).magnitude =
      (k - twoTo t.fractionBits) + twoTo t.fractionBits * ((q - t.minExponent).toNat + 1) := by
    rw [ofRatio_eq, magnitude_ofMagnitude roundedMagnitude_lt,
      roundedMagnitude_scaled hden h hlo hhi hq hfinite, Nat.mul_add_one, Nat.mul_comm]
    omega
  have hfraction : k - twoTo t.fractionBits < twoTo t.fractionBits := by omega
  simp only [absValue, scaled, hmagnitude, Nat.add_mul_mod_self_left, Nat.mod_eq_of_lt hfraction,
    Nat.add_mul_div_left _ _ (twoTo_pos _), Nat.div_eq_of_lt hfraction, Nat.zero_add,
    Nat.add_one_ne_zero, if_false, Nat.add_sub_cancel, Nat.sub_add_cancel hlo,
    Int.toNat_of_nonneg (sub_nonneg.2 hq), add_sub_cancel, h]

/-- A natural number with no more bits than a significand, in units of the last of them. -/
theorem exists_scaled (t : FloatType) {n : Nat} (hn : n ≠ 0) (h : n ≤ 2 * twoTo t.fractionBits) :
    ∃ (k : Nat) (q : ℤ), (n : ℚ) = k * 2 ^ q ∧ twoTo t.fractionBits ≤ k ∧
      k < 2 * twoTo t.fractionBits ∧ -t.fractionBits ≤ q ∧ q ≤ 1 := by
  have hpos := twoTo_pos t.fractionBits
  obtain rfl | hlt := h.eq_or_lt
  · refine ⟨twoTo t.fractionBits, 1, ?_, le_rfl, by omega, by omega, le_rfl⟩
    push_cast
    ring
  · have hlog : n.log2 ≤ t.fractionBits := by
      rw [← Nat.lt_succ_iff, Nat.log2_lt hn, Nat.pow_succ']
      exact hlt
    obtain ⟨j, hj⟩ := Nat.exists_eq_add_of_le hlog
    refine ⟨n * twoTo j, -j, ?_, ?_, ?_, by omega, by omega⟩
    · rw [zpow_neg, zpow_natCast, twoTo_eq, Nat.cast_mul, Nat.cast_pow, Nat.cast_ofNat,
        mul_inv_cancel_right₀ (by positivity)]
    · rw [hj, twoTo_eq, twoTo_eq, pow_add]
      exact Nat.mul_le_mul_right _ (Nat.log2_self_le hn)
    · rw [hj, twoTo_eq, twoTo_eq, pow_add, ← mul_assoc, ← pow_succ']
      exact Nat.mul_lt_mul_of_pos_right Nat.lt_log2_self (by positivity)

variable {i j : Int}

/-- **Small integers are floating-point numbers.** The number nearest to an integer with no more
bits than a significand is the integer itself. -/
theorem absValue_ofInt (h : i.natAbs ≤ 2 * twoTo t.fractionBits) :
    (ofInt i : Binary t).absValue = i.natAbs := by
  by_cases hi : i.natAbs = 0
  · obtain rfl := Int.natAbs_eq_zero.1 hi
    have hzero : (ofInt 0 : Binary t).scaled.1 = 0 := by cases t <;> rfl
    rw [absValue, hzero, Nat.cast_zero, zero_mul, Int.natAbs_zero, Nat.cast_zero]
  · obtain ⟨k, q, hscaled, hlo, hhi, hqlo, hqhi⟩ := exists_scaled t hi h
    have hmin : t.minExponent ≤ -t.fractionBits := by cases t <;> decide
    have hfinite : (1 - t.minExponent).toNat * twoTo t.fractionBits + 2 * twoTo t.fractionBits ≤
        infMagnitude t := by cases t <;> decide
    have hweight : (q - t.minExponent).toNat * twoTo t.fractionBits ≤
        (1 - t.minExponent).toNat * twoTo t.fractionBits :=
      Nat.mul_le_mul_right _ (Int.toNat_le_toNat (by omega))
    have hratio : (i.natAbs / (1 : Nat) : ℚ) = k * 2 ^ q := by
      rw [Nat.cast_one, div_one, hscaled]
    have hvalue := absValue_ofRatio_scaled (t := t) Nat.one_pos hratio hlo hhi (by omega)
      (by omega) (decide (i < 0))
    rw [ofInt, hvalue, Nat.cast_one, div_one]

/-- The nearest number has the sign of the integer. -/
theorem isNegative_ofInt (i : Int) : (ofInt i : Binary t).isNegative = decide (i < 0) := by
  rw [ofInt, ofRatio_eq, isNegative_ofMagnitude roundedMagnitude_lt]

/-- Small integers have different nearest numbers. -/
theorem eq_of_ofInt_eq (hi : i.natAbs ≤ 2 * twoTo t.fractionBits)
    (hj : j.natAbs ≤ 2 * twoTo t.fractionBits) (h : (ofInt i : Binary t) = ofInt j) : i = j := by
  have habs : i.natAbs = j.natAbs := by
    have hvalue := congrArg absValue h
    rw [absValue_ofInt hi, absValue_ofInt hj] at hvalue
    exact_mod_cast hvalue
  have hsign : i < 0 ↔ j < 0 := by
    rw [← decide_eq_decide, ← isNegative_ofInt (t := t), ← isNegative_ofInt (t := t), h]
  omega

/-- The nearest numbers of two integers compare as the integers do, unless they are the same. -/
theorem compare_orderKey_ofInt (t : FloatType) (i j : Int) :
    compare (ofInt i : Binary t).orderKey (ofInt j : Binary t).orderKey =
      if (ofInt i : Binary t) = ofInt j then .eq else compare i j := by
  split_ifs with h
  · rw [h, compare_eq_iff_eq]
  · have hne : (ofInt i : Binary t).orderKey ≠ (ofInt j : Binary t).orderKey :=
      fun hkey ↦ h (orderKey_injective hkey)
    obtain hlt | rfl | hgt := lt_trichotomy i j
    · rw [compare_lt_iff_lt.2 hlt, compare_lt_iff_lt]
      exact (orderKey_ofInt_le hlt.le).lt_of_ne hne
    · exact absurd rfl h
    · rw [compare_gt_iff_gt.2 hgt, compare_gt_iff_gt]
      exact (orderKey_ofInt_le hgt.le).lt_of_ne hne.symm

end Binary

/-! ### Comparisons -/

/-- The truth of a comparison of two integers. -/
def Comparison.truth (c : Comparison) (i j : Int) : Bool :=
  match c with
  | eq | nullEq => i = j
  | ne | nullNe => i ≠ j
  | lt => i < j
  | le => i ≤ j
  | gt => j < i
  | ge => j ≤ i

/-- What a comparison reads off an order is true of the integers. -/
theorem Comparison.holds_compare (c : Comparison) (i j : Int) :
    c.holds (compare i j) = c.truth i j := by
  obtain h | rfl | h := lt_trichotomy i j
  · rw [compare_lt_iff_lt.2 h]
    cases c <;> simp [holds, truth, h, h.ne, h.le, h.not_gt, h.not_ge]
  · rw [compare_eq_iff_eq.2 rfl]
    cases c <;> simp [holds, truth]
  · rw [compare_gt_iff_gt.2 h]
    cases c <;> simp [holds, truth, h, h.ne', h.le, h.not_gt, h.not_ge]

/-- The answer of a comparison of the integers `i` and `j` of the types `s` and `t`. It is exact if
an integer type holds both. Otherwise it is that of the nearest numbers, which is exact too unless
the two integers have the same. -/
structure Comparison.Answers (c : Comparison) (s t : IntType) (i j : Int) (answer : Bool) :
    Prop where
  exact : ¬s.Mixed t → answer = c.truth i j
  nearest : s.Mixed t → answer =
    if (Binary.ofInt i : Binary .double) = Binary.ofInt j then c.truth i i else c.truth i j
  /-- Integers of up to 53 bits have nearest numbers of their own. -/
  small : i.natAbs ≤ 2 ^ 53 → j.natAbs ≤ 2 ^ 53 → answer = c.truth i j

namespace Comparison.Answers

variable {c : Comparison} {s t : IntType}

/-- In a type that holds both, the answer is the truth. -/
theorem of_widen (h : ¬s.Mixed t) (i j : Int) : c.Answers s t i j (c.holds (compare i j)) := by
  rw [holds_compare]
  exact ⟨fun _ ↦ rfl, fun hmixed ↦ absurd hmixed h, fun _ _ ↦ rfl⟩

/-- By nearest numbers, the answer is the truth up to `2 ^ 53`, and never the contrary of it. -/
theorem of_ofInt (h : s.Mixed t) (i j : Int) :
    c.Answers s t i j (c.holds (compare (Binary.ofInt i : Binary .double).orderKey
      (Binary.ofInt j : Binary .double).orderKey)) := by
  have heq : c.holds .eq = c.truth i i := by
    rw [← holds_compare, compare_eq_iff_eq.2 rfl]
  rw [Binary.compare_orderKey_ofInt]
  refine ⟨fun hnot ↦ absurd h hnot, fun _ ↦ ?_, fun hi hj ↦ ?_⟩
  · split_ifs
    · exact heq
    · exact holds_compare c i j
  · split_ifs with hsame
    · rw [← Binary.eq_of_ofInt_eq (t := .double) hi hj hsame]
      exact heq
    · exact holds_compare c i j

end Comparison.Answers

namespace Series

variable {s t : IntType} {as : List (Option (FixedInt s))} {bs : List (Option (FixedInt t))}
  {n : Nat}

/-- Widening keeps the values. -/
theorem map_toInt_widen {u : IntType} (h : u.Holds s) (as : List (Option (FixedInt s))) :
    (as.map (Option.map (FixedInt.widen h))).map (Option.map FixedInt.toInt) =
      as.map (Option.map FixedInt.toInt) := by
  rw [List.map_map]
  refine List.map_congr_left fun a _ ↦ ?_
  cases a <;> rfl

/-- **Comparisons of integers are exact** if an integer type holds both operands: none of their
values is changed by the conversion to that type. Unsigned integers of 64 bits and signed ones are
compared by their nearest floating-point numbers. -/
theorem combine_comparison_integers (s t : IntType) (c : Comparison)
    {as : List (Option (FixedInt s))} {bs : List (Option (FixedInt t))} (ha : Fits as n)
    (hb : Fits bs n) (hlen : as.length = n ∨ bs.length = n) :
    (¬s.Mixed t → ∃ (u : IntType) (as' bs' : List (Option (FixedInt u))),
      coerce ⟨.integer s, as⟩ ⟨.integer t, bs⟩ = .ok (⟨.integer u, as'⟩, ⟨.integer u, bs'⟩) ∧
      as'.map (Option.map FixedInt.toInt) = as.map (Option.map FixedInt.toInt) ∧
      bs'.map (Option.map FixedInt.toInt) = bs.map (Option.map FixedInt.toInt)) ∧
    (s.Mixed t → coerce ⟨.integer s, as⟩ ⟨.integer t, bs⟩ =
      .ok (⟨.float64, as.map (Option.map fun a ↦ Binary.ofInt a.toInt)⟩,
        ⟨.float64, bs.map (Option.map fun b ↦ Binary.ofInt b.toInt)⟩)) ∧
    ∃ flags, combine (.comparison c) .boolean ⟨.integer s, as⟩ ⟨.integer t, bs⟩ =
        .ok (ofFlags flags) ∧ flags.length = n ∧
      ∀ i < n, ∀ a b, rowAt as i = some (some a) → rowAt bs i = some (some b) →
        ∃ answer, flags[i]? = some (some answer) ∧ c.Answers s t a.toInt b.toInt answer := by
  have hnumeric : DataType.integer s = .integer t ∨ (DataType.integer s).isNumeric ∧
      (DataType.integer t).isNumeric ∨ (DataType.integer s).isText ∧ (DataType.integer t).isText :=
    .inr (.inl ⟨rfl, rfl⟩)
  -- Mixed signs without a wider type are compared as floats; every other pair is widened exactly.
  by_cases hmixed : s.Mixed t
  · have hk := (comparedAs_integers s t).2 hmixed
    have hs := convertsBy_ofInt s .double
    have ht := convertsBy_ofInt t .double
    obtain ⟨flags, hcombine, hlength, hrows⟩ := exists_flags hnumeric hk hs ht rfl ha hb hlen c
    refine ⟨fun h ↦ absurd hmixed h, fun _ ↦ coerce_eq hk hs ht as bs, flags, hcombine, hlength,
      fun i hi a b hai hbi ↦ ⟨_, ?_, .of_ofInt hmixed a.toInt b.toInt⟩⟩
    rw [hrows i hi _ _ hai hbi]
    exact congrArg some (Comparison.onRows_some (d := .float64) ..)
  · obtain ⟨u, hk, hus, hut⟩ := (comparedAs_integers s t).1 hmixed
    have hs := convertsBy_widen hus
    have ht := convertsBy_widen hut
    obtain ⟨flags, hcombine, hlength, hrows⟩ := exists_flags hnumeric hk hs ht rfl ha hb hlen c
    refine ⟨fun _ ↦ ⟨u, _, _, coerce_eq hk hs ht as bs, map_toInt_widen hus as,
      map_toInt_widen hut bs⟩, fun h ↦ absurd h hmixed, flags, hcombine, hlength,
      fun i hi a b hai hbi ↦ ⟨_, ?_, .of_widen hmixed a.toInt b.toInt⟩⟩
    rw [hrows i hi _ _ hai hbi]
    exact congrArg some (Comparison.onRows_some (d := .integer u) ..)

/-- A debt, and an account that is not known. -/
def accounts : List (Option (FixedInt .int16)) := [some (FixedInt.wrap .int16 (-1)), none]

/-- The greatest unsigned integer of 32 bits. -/
def ceiling : List (Option (FixedInt .uint32)) := [some (FixedInt.wrap .uint32 4294967295)]

/-- A debt is below the ceiling. -/
theorem combine_comparison_integers_accounts :
    ∃ flags, combine (.comparison .lt) .boolean ⟨.integer .int16, accounts⟩
        ⟨.integer .uint32, ceiling⟩ = .ok (ofFlags flags) ∧ flags.length = 2 ∧
      flags[0]? = some (some true) := by
  have haccounts : Fits accounts 2 := .inl rfl
  have hceiling : Fits ceiling 2 := .inr rfl
  obtain ⟨-, -, flags, hflags, hlen, hrows⟩ :=
    combine_comparison_integers .int16 .uint32 .lt haccounts hceiling (.inl rfl)
  obtain ⟨answer, hanswer, hlaw⟩ := hrows 0 (by decide) _ _ rfl rfl
  have htrue : answer = true := hlaw.exact (by decide)
  exact ⟨flags, hflags, hlen, htrue ▸ hanswer⟩

/-- Two integers beyond `2 ^ 53`, one unsigned and one signed, that are different and taken for
equal. -/
theorem not_combine_eq_truth :
    ¬∀ (s t : IntType) (c : Comparison) (a : FixedInt s) (b : FixedInt t),
      combine (.comparison c) .boolean ⟨.integer s, [some a]⟩ ⟨.integer t, [some b]⟩ =
        .ok (ofFlags [some (c.truth a.toInt b.toInt)]) := by
  intro h
  have hexact := h .uint64 .int64 .eq (FixedInt.wrap .uint64 9007199254740993)
    (FixedInt.wrap .int64 9007199254740992)
  have hequal : combine (.comparison .eq) .boolean
      ⟨.integer .uint64, [some (FixedInt.wrap .uint64 9007199254740993)]⟩
      ⟨.integer .int64, [some (FixedInt.wrap .int64 9007199254740992)]⟩ =
        .ok (ofFlags [some true]) := rfl
  rw [hequal] at hexact
  cases hexact

end Series

end Tabular
