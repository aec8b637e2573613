import Mathlib.Algebra.Order.Field.Power
import Mathlib.Data.Nat.Log
import Mathlib.Data.Rat.Cast.Order
import Mathlib.Tactic.Linarith
import Mathlib.Tactic.LinearCombination
import Mathlib.Tactic.Positivity
import Mathlib.Tactic.Ring
import Tabular.Binary.Rounding

/-!
# Rounding keeps the order

The nearest floating-point number to a greater ratio is no less (`Binary.roundedMagnitude_mono`).
Within one binade the significands are quotients at one scale, rounded; from one binade to the next
the pattern grows by the weight of the exponent's last bit, which no significand exceeds by more
than a carry. What is used of rounding itself is only where a rounded quotient changes, at the
multiples of a half (`roundDiv_le_iff`).

The place of a number in the total order is that of its magnitude, turned round for negative
numbers. So a map of magnitudes that grows keeps the order of patterns, and rounding is such a map:
from integers (`Binary.orderKey_ofInt_le`), and from one precision to the other as long as a NaN is
quiet (`Binary.orderKey_convert_le`).

A ratio is kept as two natural numbers, so that rounding can be run, and is compared as a rational
number. Its binade is the difference of two logarithms, or one less (`Binary.ratioLog2_spec`).
-/

namespace Tabular

theorem twoTo_eq (n : Nat) : twoTo n = 2 ^ n := rfl

section RoundDiv

variable {num den k : Nat}

/-- A quotient rounds to at most `k` if it is below `k` and a half; the tie itself goes down to an
even `k`. -/
theorem roundDiv_le_iff (hden : 0 < den) :
    roundDiv num den ≤ k ↔
      2 * num < (2 * k + 1) * den ∨ 2 * num = (2 * k + 1) * den ∧ k % 2 = 0 := by
  have hdiv := Nat.div_add_mod num den
  have hmod := Nat.mod_lt num hden
  have hexpand : (2 * k + 1) * den = 2 * (den * k) + den := by ring
  rw [hexpand]
  -- The quotient decides unless it equals `k`, and then the remainder does.
  obtain hlt | rfl | hgt := Nat.lt_trichotomy (num / den) k
  · have hle : den * (num / den) + den ≤ den * k := by
      calc den * (num / den) + den = den * (num / den + 1) := by ring
        _ ≤ den * k := Nat.mul_le_mul_left den hlt
    have hround : roundDiv num den ≤ num / den + 1 := by
      simp only [roundDiv]
      split_ifs <;> omega
    exact ⟨fun _ ↦ .inl (by omega), fun _ ↦ by omega⟩
  · simp only [roundDiv]
    split_ifs <;> omega
  · have hle : den * k + den ≤ den * (num / den) := by
      calc den * k + den = den * (k + 1) := by ring
        _ ≤ den * (num / den) := Nat.mul_le_mul_left den hgt
    have hround : num / den ≤ roundDiv num den := by
      simp only [roundDiv]
      split_ifs <;> omega
    constructor <;> intro h <;> omega

end RoundDiv

namespace Binary

/-! ### Ratios and their binades -/

/-- The significand of a ratio at the scale `2 ^ q`. -/
def significand (num den : Nat) (q : Int) : Nat :=
  if 0 ≤ q then roundDiv num (den * twoTo q.toNat) else roundDiv (num * twoTo (-q).toNat) den

section Significand

variable {num den num' den' k : Nat} {q : Int}

/-- A power with an exponent that is not negative is a whole number. -/
theorem zpow_toNat (hq : 0 ≤ q) : (2 : ℚ) ^ q = (twoTo q.toNat : ℚ) := by
  rw [twoTo_eq, Nat.cast_pow, Nat.cast_ofNat, ← zpow_natCast, Int.toNat_of_nonneg hq]

/-- And with one that is not positive it is the inverse of one. -/
theorem zpow_mul_toNat_neg (hq : q ≤ 0) : (2 : ℚ) ^ q * twoTo (-q).toNat = 1 := by
  rw [← zpow_toNat (by omega), ← zpow_add₀ two_ne_zero, add_neg_cancel, zpow_zero]

/-- The significand is the ratio in units of `2 ^ q`, rounded. -/
theorem significand_le_iff (hden : 0 < den) :
    significand num den q ≤ k ↔
      2 * (num / den : ℚ) < (2 * k + 1) * 2 ^ q ∨
        2 * (num / den : ℚ) = (2 * k + 1) * 2 ^ q ∧ k % 2 = 0 := by
  have hden' : (0 : ℚ) < den := by exact_mod_cast hden
  unfold significand
  split_ifs with hq
  · have hpos : 0 < den * twoTo q.toNat := Nat.mul_pos hden (twoTo_pos _)
    rw [roundDiv_le_iff hpos, zpow_toNat hq, ← mul_div_assoc, div_lt_iff₀ hden',
      div_eq_iff hden'.ne', mul_assoc (2 * (k : ℚ) + 1), mul_comm (twoTo q.toNat : ℚ)]
    exact_mod_cast Iff.rfl
  · have hpow : (2 : ℚ) ^ q * twoTo (-q).toNat = 1 := zpow_mul_toNat_neg (by omega)
    have htwo : (0 : ℚ) < twoTo (-q).toNat := by exact_mod_cast twoTo_pos _
    have hscale : (2 * k + 1 : ℚ) * 2 ^ q * den * twoTo (-q).toNat = (2 * k + 1) * den := by
      linear_combination (2 * k + 1 : ℚ) * den * hpow
    rw [roundDiv_le_iff hden, ← mul_div_assoc, div_lt_iff₀ hden', div_eq_iff hden'.ne',
      ← mul_lt_mul_iff_left₀ htwo, ← mul_left_inj' htwo.ne', hscale, mul_assoc (2 : ℚ)]
    exact_mod_cast Iff.rfl

/-- At one scale, a greater ratio has no smaller significand. -/
theorem significand_mono (hden : 0 < den) (hden' : 0 < den')
    (h : (num / den : ℚ) ≤ num' / den') (q : Int) :
    significand num den q ≤ significand num' den' q := by
  rw [significand_le_iff hden]
  obtain hlt | ⟨heq, heven⟩ := (significand_le_iff hden').1 (le_refl (significand num' den' q))
  · exact .inl (by linarith)
  · obtain h | h := h.lt_or_eq
    · exact .inl (by linarith)
    · exact .inr ⟨by linarith, heven⟩

/-- A ratio of at most `k` units has at most `k` for its significand. -/
theorem significand_le (hden : 0 < den) (h : (num / den : ℚ) ≤ k * 2 ^ q) :
    significand num den q ≤ k := by
  refine (significand_le_iff hden).2 (.inl ?_)
  have hpos : (0 : ℚ) < 2 ^ q := by positivity
  linarith

/-- And one of at least `k` units has at least `k`. -/
theorem le_significand (hden : 0 < den) (h : (k * 2 ^ q : ℚ) ≤ num / den) :
    k ≤ significand num den q := by
  cases k with
  | zero => exact Nat.zero_le _
  | succ k =>
    by_contra hlt
    have hpos : (0 : ℚ) < 2 ^ q := by positivity
    push_cast at h
    have hle : significand num den q ≤ k := Nat.le_of_lt_succ (Nat.lt_of_not_le hlt)
    obtain h' | ⟨h', -⟩ := (significand_le_iff hden).1 hle <;> linarith

end Significand

section RatioLog2

variable {num den : Nat}

/-- A ratio is compared with a power of two by whole numbers. -/
theorem div_lt_zpow_iff (hden : 0 < den) (e : ℤ) :
    (num / den : ℚ) < 2 ^ e ↔
      if 0 ≤ e then num < den * twoTo e.toNat else num * twoTo (-e).toNat < den := by
  have hden' : (0 : ℚ) < den := by exact_mod_cast hden
  rw [div_lt_iff₀ hden']
  split_ifs with he
  · rw [zpow_toNat he, mul_comm]
    exact_mod_cast Iff.rfl
  · have htwo : (0 : ℚ) < twoTo (-e).toNat := by exact_mod_cast twoTo_pos _
    rw [← mul_lt_mul_iff_left₀ htwo, mul_right_comm, zpow_mul_toNat_neg (by omega), one_mul]
    exact_mod_cast Iff.rfl

/-- A ratio lies in the binade of its logarithm. -/
theorem ratioLog2_spec (hnum : num ≠ 0) (hden : 0 < den) :
    (2 : ℚ) ^ ratioLog2 num den ≤ num / den ∧ (num / den : ℚ) < 2 ^ (ratioLog2 num den + 1) := by
  have hnum' : (0 : ℚ) < num := by exact_mod_cast Nat.pos_of_ne_zero hnum
  have hden' : (0 : ℚ) < den := by exact_mod_cast hden
  have hnumlow : (2 : ℚ) ^ (num.log2 : ℤ) ≤ num := by
    rw [zpow_natCast]
    exact_mod_cast Nat.log2_self_le hnum
  have hnumhigh : (num : ℚ) < 2 ^ ((num.log2 : ℤ) + 1) := by
    exact_mod_cast Nat.lt_log2_self
  have hdenlow : (2 : ℚ) ^ (den.log2 : ℤ) ≤ den := by
    rw [zpow_natCast]
    exact_mod_cast Nat.log2_self_le hden.ne'
  have hdenhigh : (den : ℚ) < 2 ^ ((den.log2 : ℤ) + 1) := by
    exact_mod_cast Nat.lt_log2_self
  -- Numerator and denominator lie between neighbouring powers of two, so the exponents' difference
  -- is right or one too high.
  have hlow : (2 : ℚ) ^ ((num.log2 : ℤ) - den.log2 - 1) ≤ num / den := by
    rw [le_div_iff₀ hden']
    calc (2 : ℚ) ^ ((num.log2 : ℤ) - den.log2 - 1) * den
        ≤ 2 ^ ((num.log2 : ℤ) - den.log2 - 1) * 2 ^ ((den.log2 : ℤ) + 1) := by gcongr
      _ = 2 ^ (num.log2 : ℤ) := by rw [← zpow_add₀ two_ne_zero]; congr 1; ring
      _ ≤ num := hnumlow
  have hhigh : (num / den : ℚ) < 2 ^ ((num.log2 : ℤ) - den.log2 + 1) := by
    rw [div_lt_iff₀ hden']
    calc (num : ℚ) < 2 ^ ((num.log2 : ℤ) + 1) := hnumhigh
      _ = 2 ^ ((num.log2 : ℤ) - den.log2 + 1) * 2 ^ (den.log2 : ℤ) := by
        rw [← zpow_add₀ two_ne_zero]; congr 1; ring
      _ ≤ 2 ^ ((num.log2 : ℤ) - den.log2 + 1) * den := by gcongr
  have hratio := @div_lt_zpow_iff num den hden ((num.log2 : ℤ) - den.log2)
  unfold ratioLog2
  simp only [← hratio]
  split_ifs with h
  · exact ⟨hlow, by rwa [sub_add_cancel]⟩
  · exact ⟨not_lt.1 h, hhigh⟩

/-- A greater ratio lies in no lower binade. -/
theorem ratioLog2_mono {num' den' : Nat} (hnum : num ≠ 0) (hnum' : num' ≠ 0) (hden : 0 < den)
    (hden' : 0 < den') (h : (num / den : ℚ) ≤ num' / den') :
    ratioLog2 num den ≤ ratioLog2 num' den' := by
  have hpow := ((ratioLog2_spec hnum hden).1.trans h).trans_lt (ratioLog2_spec hnum' hden').2
  exact Int.le_of_lt_add_one ((zpow_lt_zpow_iff_right₀ one_lt_two).1 hpow)

end RatioLog2

/-! ### Patterns of rounded ratios -/

/-- The exponent of the unit in which a ratio is rounded. -/
def ratioScale (t : FloatType) (num den : Nat) : Int :=
  max t.minExponent (ratioLog2 num den - t.fractionBits)

/-- The magnitude of the pattern nearest to a ratio. -/
def roundedMagnitude (t : FloatType) (num den : Nat) : Nat :=
  if num = 0 then 0
  else Nat.min ((ratioScale t num den - t.minExponent).toNat * twoTo t.fractionBits +
    significand num den (ratioScale t num den)) (infMagnitude t)

section RoundedMagnitude

variable {t : FloatType} {num den num' den' : Nat}

/-- A rounded ratio is the pattern of its rounded magnitude. -/
theorem ofRatio_eq (negative : Bool) (num den : Nat) :
    ofRatio negative num den = (ofMagnitude negative (roundedMagnitude t num den) : Binary t) := by
  unfold ofRatio roundedMagnitude
  split_ifs <;> rfl

/-- No ratio is rounded beyond infinity. -/
theorem roundedMagnitude_le : roundedMagnitude t num den ≤ infMagnitude t := by
  unfold roundedMagnitude
  split_ifs
  · exact Nat.zero_le _
  · exact Nat.min_le_right _ _

/-- A significand carries into the next binade at most. -/
theorem significand_le_carry (hnum : num ≠ 0) (hden : 0 < den) :
    significand num den (ratioScale t num den) ≤ 2 * twoTo t.fractionBits := by
  refine significand_le hden ((ratioLog2_spec hnum hden).2.le.trans ?_)
  have hscale : ratioLog2 num den + 1 ≤ (t.fractionBits + 1 : Nat) + ratioScale t num den := by
    unfold ratioScale
    push_cast
    omega
  calc (2 : ℚ) ^ (ratioLog2 num den + 1)
      ≤ 2 ^ (((t.fractionBits + 1 : Nat) : ℤ) + ratioScale t num den) :=
        zpow_le_zpow_right₀ one_le_two hscale
    _ = (2 * twoTo t.fractionBits : Nat) * 2 ^ ratioScale t num den := by
      rw [zpow_add₀ two_ne_zero, zpow_natCast, twoTo_eq, pow_succ']
      push_cast
      rfl

/-- Above the least scale, a significand has its leading bit. -/
theorem le_significand_normal (hnum : num ≠ 0) (hden : 0 < den)
    (h : t.minExponent < ratioScale t num den) :
    twoTo t.fractionBits ≤ significand num den (ratioScale t num den) := by
  refine le_significand hden (le_of_eq_of_le ?_ (ratioLog2_spec hnum hden).1)
  have hscale : ratioLog2 num den = (t.fractionBits : ℤ) + ratioScale t num den := by
    unfold ratioScale at h ⊢
    omega
  rw [hscale, zpow_add₀ two_ne_zero, zpow_natCast, twoTo_eq]
  push_cast
  rfl

/-- **Rounding to a pattern keeps the order of ratios.** -/
theorem roundedMagnitude_mono (hden : 0 < den) (hden' : 0 < den')
    (h : (num / den : ℚ) ≤ num' / den') :
    roundedMagnitude t num den ≤ roundedMagnitude t num' den' := by
  by_cases hnum : num = 0
  · simp [roundedMagnitude, hnum]
  have hnum' : num' ≠ 0 := by
    rintro rfl
    have hpos : (0 : ℚ) < num / den := by
      have := Nat.pos_of_ne_zero hnum
      positivity
    rw [Nat.cast_zero, zero_div] at h
    exact absurd h (not_le.2 hpos)
  have hscale : ratioScale t num den ≤ ratioScale t num' den' :=
    max_le_max_left _ (sub_le_sub_right (ratioLog2_mono hnum hnum' hden hden' h) _)
  have hmin : t.minExponent ≤ ratioScale t num den := le_max_left _ _
  rw [roundedMagnitude, roundedMagnitude, if_neg hnum, if_neg hnum']
  refine min_le_min_right _ ?_
  obtain hlt | heq := hscale.lt_or_eq
  · -- the scale grows by one at least, which makes up for the carry
    have hcarry := significand_le_carry (t := t) hnum hden
    have hnormal := le_significand_normal (t := t) hnum' hden' (hmin.trans_lt hlt)
    have hstep : (ratioScale t num den - t.minExponent).toNat + 1 ≤
        (ratioScale t num' den' - t.minExponent).toNat := by omega
    have hweight := Nat.mul_le_mul_right (twoTo t.fractionBits) hstep
    rw [Nat.add_mul] at hweight
    omega
  · rw [heq]
    exact Nat.add_le_add_left (significand_mono hden hden' h _) _

end RoundedMagnitude

/-! ### The order of patterns -/

section OrderKey

variable {t : FloatType} {negative negative' : Bool} {m m' : Nat}

/-- A pattern is its magnitude with the weight of the sign. -/
theorem toNat_bits_ofMagnitude (h : m < signWeight t) :
    (ofMagnitude negative m : Binary t).bits.toNat = m + if negative then signWeight t else 0 := by
  have hwidth : 2 ^ t.width = 2 * signWeight t := by cases t <;> decide
  refine (BitVec.toNat_ofNat _ _).trans (Nat.mod_eq_of_lt ?_)
  split <;> omega

/-- It has the sign that was asked for. -/
theorem isNegative_ofMagnitude (h : m < signWeight t) :
    (ofMagnitude negative m : Binary t).isNegative = negative := by
  rw [isNegative, toNat_bits_ofMagnitude h]
  cases negative <;> simp [h]

theorem magnitude_ofMagnitude (h : m < signWeight t) :
    (ofMagnitude negative m : Binary t).magnitude = m := by
  rw [magnitude, toNat_bits_ofMagnitude h]
  cases negative <;> simp [Nat.mod_eq_of_lt h]

/-- The place of a pattern: magnitudes up from zero, and below them in reverse. -/
theorem orderKey_ofMagnitude (h : m < signWeight t) :
    (ofMagnitude negative m : Binary t).orderKey = if negative then -(m : Int) - 1 else m := by
  rw [orderKey, isNegative_ofMagnitude h, magnitude_ofMagnitude h]

/-- Patterns are in order if a negative one comes first, or else their magnitudes are in order, the
negative ones in reverse. -/
theorem orderKey_ofMagnitude_le (h : m < signWeight t) (h' : m' < signWeight t)
    (hsign : negative' = true → negative = true ∧ m' ≤ m)
    (hle : negative = false → m ≤ m') :
    (ofMagnitude negative m : Binary t).orderKey ≤
      (ofMagnitude negative' m' : Binary t).orderKey := by
  rw [orderKey_ofMagnitude h, orderKey_ofMagnitude h']
  cases negative <;> cases negative' <;> simp_all
  omega

/-- Infinity leaves the sign bit alone. -/
theorem infMagnitude_lt_signWeight : infMagnitude t < signWeight t := by cases t <;> decide

theorem roundedMagnitude_lt {num den : Nat} : roundedMagnitude t num den < signWeight t :=
  roundedMagnitude_le.trans_lt infMagnitude_lt_signWeight

/-- **Integers and the nearest numbers have the same order.** -/
theorem orderKey_ofInt_le {i j : Int} (h : i ≤ j) :
    (ofInt i : Binary t).orderKey ≤ (ofInt j : Binary t).orderKey := by
  have hmono {a b : Nat} (hab : a ≤ b) : roundedMagnitude t a 1 ≤ roundedMagnitude t b 1 :=
    roundedMagnitude_mono Nat.one_pos Nat.one_pos (by simpa using hab)
  rw [ofInt, ofInt, ofRatio_eq, ofRatio_eq]
  refine orderKey_ofMagnitude_le roundedMagnitude_lt roundedMagnitude_lt (fun hj ↦ ?_) fun hi ↦ ?_
  · rw [decide_eq_true_eq] at hj ⊢
    exact ⟨by omega, hmono (by omega)⟩
  · rw [decide_eq_false_iff_not] at hi
    exact hmono (by omega)

end OrderKey

/-! ### From one precision to the other -/

/-- A NaN that is not marked as quiet. -/
def isSignalling {t : FloatType} (x : Binary t) : Bool :=
  x.isNan && decide (x.magnitude < infMagnitude t + quietWeight t)

section Convert

variable {s t : FloatType} {x y : Binary s}

/-- The absolute value of a finite pattern. -/
def absValue (x : Binary s) : ℚ := x.scaled.1 * 2 ^ x.scaled.2

/-- A finite pattern is below the next binade. -/
theorem absValue_lt (x : Binary s) : x.absValue <
    (twoTo s.fractionBits : ℚ) *
      2 ^ (s.minExponent + (x.magnitude / twoTo s.fractionBits : Nat)) := by
  have hmod := Nat.mod_lt x.magnitude (twoTo_pos s.fractionBits)
  simp only [absValue, scaled]
  split_ifs with h
  · rw [h, Nat.cast_zero, add_zero]
    gcongr
  · have hsum : x.magnitude % twoTo s.fractionBits + twoTo s.fractionBits <
        twoTo s.fractionBits * 2 := by omega
    obtain ⟨k, hk⟩ := Nat.exists_eq_succ_of_ne_zero h
    rw [hk, Nat.succ_sub_one, Nat.cast_succ, ← add_assoc, zpow_add_one₀ two_ne_zero, mul_left_comm,
      mul_comm]
    gcongr
    exact_mod_cast hsum

/-- A pattern with an exponent is no less than its binade. -/
theorem le_absValue (h : 0 < x.magnitude / twoTo s.fractionBits) :
    (twoTo s.fractionBits : ℚ) *
      2 ^ (s.minExponent + (x.magnitude / twoTo s.fractionBits - 1 : Nat)) ≤ x.absValue := by
  simp only [absValue, scaled, if_neg h.ne']
  gcongr
  omega

/-- A greater finite pattern has a greater value. -/
theorem absValue_mono (h : x.magnitude ≤ y.magnitude) : x.absValue ≤ y.absValue := by
  have hpos := twoTo_pos s.fractionBits
  have hx := Nat.mod_lt x.magnitude hpos
  obtain hfield | hfield := (Nat.div_le_div_right (c := twoTo s.fractionBits) h).lt_or_eq
  · -- the greatest number of a binade is below the least of the next
    refine (absValue_lt x).le.trans (le_trans ?_ (le_absValue (Nat.zero_lt_of_lt hfield)))
    have hscale : s.minExponent + (x.magnitude / twoTo s.fractionBits : Nat) ≤
        s.minExponent + (y.magnitude / twoTo s.fractionBits - 1 : Nat) := by omega
    exact mul_le_mul_of_nonneg_left (zpow_le_zpow_right₀ one_le_two hscale) (Nat.cast_nonneg _)
  · have hfraction : x.magnitude % twoTo s.fractionBits ≤ y.magnitude % twoTo s.fractionBits := by
      have hx := Nat.div_add_mod x.magnitude (twoTo s.fractionBits)
      have hy := Nat.div_add_mod y.magnitude (twoTo s.fractionBits)
      rw [hfield] at hx
      omega
    simp only [absValue, scaled, hfield]
    split_ifs
    · gcongr
    · exact mul_le_mul_of_nonneg_right (by exact_mod_cast Nat.add_le_add_right hfraction _)
        (by positivity)

/-- The magnitude of the nearest pattern of the other precision, payloads being moved to the
leading bits. -/
def convertedMagnitude (t : FloatType) (x : Binary s) : Nat :=
  if x.isNan then
    infMagnitude t + (x.magnitude - infMagnitude s) * twoTo t.fractionBits / twoTo s.fractionBits
  else if x.isInfinite then infMagnitude t
  else if 0 ≤ x.scaled.2 then roundedMagnitude t (x.scaled.1 * twoTo x.scaled.2.toNat) 1
  else roundedMagnitude t x.scaled.1 (twoTo (-x.scaled.2).toNat)

/-- The payload of a NaN fits the fraction. -/
theorem payload_lt (x : Binary s) : x.magnitude - infMagnitude s < twoTo s.fractionBits := by
  have hlt : x.magnitude < signWeight s := Nat.mod_lt _ (twoTo_pos _)
  have hweight : signWeight s = infMagnitude s + twoTo s.fractionBits := by cases s <;> decide
  have hpos := twoTo_pos s.fractionBits
  omega

/-- A payload that was moved fits the fraction. -/
theorem convertedPayload_lt (x : Binary s) :
    (x.magnitude - infMagnitude s) * twoTo t.fractionBits / twoTo s.fractionBits <
      twoTo t.fractionBits := by
  rw [Nat.div_lt_iff_lt_mul (twoTo_pos _), Nat.mul_comm]
  exact Nat.mul_lt_mul_of_pos_left x.payload_lt (twoTo_pos _)

/-- A payload with its leading bit is that of a quiet NaN. -/
theorem quiet_ofMagnitude {negative : Bool} {payload : Nat} (h : quietWeight t ≤ payload)
    (hlt : payload < twoTo t.fractionBits) :
    quiet (ofMagnitude negative (infMagnitude t + payload) : Binary t) =
      ofMagnitude negative (infMagnitude t + payload) := by
  have hweight : signWeight t = infMagnitude t + twoTo t.fractionBits := by cases t <;> decide
  have hquiet : twoTo t.fractionBits = quietWeight t * 2 := by cases t <;> decide
  obtain ⟨k, hk⟩ : ∃ k, infMagnitude t + (if negative then signWeight t else 0) =
      quietWeight t * (2 * k) := by
    refine ⟨(infMagnitude t + (if negative then signWeight t else 0)) / twoTo t.fractionBits, ?_⟩
    cases negative <;> cases t <;> decide
  have hbits : (ofMagnitude negative (infMagnitude t + payload) : Binary t).bits.toNat /
      quietWeight t = 2 * k + 1 := by
    have hpos : 0 < quietWeight t := twoTo_pos _
    rw [toNat_bits_ofMagnitude (by omega), Nat.add_right_comm, hk, Nat.mul_add_div hpos]
    congr 1
    exact Nat.div_eq_of_lt_le (by omega) (by omega)
  rw [quiet, if_neg (by omega)]

/-- Where a NaN is quiet, a conversion is one of magnitudes. -/
theorem convert_eq (h : x.isSignalling = false) :
    convert t x = ofMagnitude x.isNegative (convertedMagnitude t x) := by
  unfold convert convertedMagnitude
  split_ifs with hnan hinf hscale
  · rw [isSignalling, hnan, Bool.true_and, decide_eq_false_iff_not, not_lt] at h
    refine quiet_ofMagnitude ?_ (convertedPayload_lt x)
    have hs : twoTo s.fractionBits = 2 * quietWeight s := by cases s <;> decide
    have ht : twoTo t.fractionBits = 2 * quietWeight t := by cases t <;> decide
    rw [Nat.le_div_iff_mul_le (twoTo_pos _), hs, ht]
    calc quietWeight t * (2 * quietWeight s)
        = quietWeight s * (2 * quietWeight t) := by ring
      _ ≤ (x.magnitude - infMagnitude s) * (2 * quietWeight t) :=
        Nat.mul_le_mul_right _ (by omega)
  · rfl
  · rw [ofScaled, if_pos hscale, ofRatio_eq]
  · rw [ofScaled, if_neg hscale, ofRatio_eq]

/-- It leaves the sign bit alone. -/
theorem convertedMagnitude_lt : convertedMagnitude t x < signWeight t := by
  unfold convertedMagnitude
  split_ifs
  · have hweight : signWeight t = infMagnitude t + twoTo t.fractionBits := by cases t <;> decide
    have hpayload := convertedPayload_lt (t := t) x
    omega
  · exact infMagnitude_lt_signWeight
  · exact roundedMagnitude_lt
  · exact roundedMagnitude_lt

/-- Finite patterns are rounded. -/
theorem convertedMagnitude_of_finite (h : x.magnitude < infMagnitude s) :
    ∃ num den : Nat, 0 < den ∧ (num / den : ℚ) = x.absValue ∧
      convertedMagnitude t x = roundedMagnitude t num den := by
  have hnan : x.isNan = false := decide_eq_false h.not_gt
  have hinf : x.isInfinite = false := decide_eq_false h.ne
  simp only [convertedMagnitude, absValue, hnan, hinf, Bool.false_eq_true, if_false]
  split_ifs with hq
  · refine ⟨_, 1, Nat.one_pos, ?_, rfl⟩
    rw [Nat.cast_one, div_one, Nat.cast_mul, zpow_toNat hq]
  · refine ⟨_, _, twoTo_pos _, ?_, rfl⟩
    have htwo : (twoTo (-x.scaled.2).toNat : ℚ) ≠ 0 := by exact_mod_cast (twoTo_pos _).ne'
    rw [div_eq_iff htwo, mul_assoc, zpow_mul_toNat_neg (by omega), mul_one]

theorem convertedMagnitude_of_infinite (h : x.magnitude = infMagnitude s) :
    convertedMagnitude t x = infMagnitude t := by
  have hnan : x.isNan = false := decide_eq_false h.not_gt
  have hinf : x.isInfinite = true := decide_eq_true h
  simp only [convertedMagnitude, hnan, hinf, Bool.false_eq_true, if_false, if_true]

/-- NaNs keep their payload, moved to the other fraction. -/
theorem convertedMagnitude_of_nan (h : infMagnitude s < x.magnitude) :
    convertedMagnitude t x = infMagnitude t +
      (x.magnitude - infMagnitude s) * twoTo t.fractionBits / twoTo s.fractionBits := by
  have hnan : x.isNan = true := decide_eq_true h
  rw [convertedMagnitude, if_pos hnan]

/-- What is no NaN becomes none. -/
theorem convertedMagnitude_le (h : x.magnitude ≤ infMagnitude s) :
    convertedMagnitude t x ≤ infMagnitude t := by
  obtain hlt | heq := h.lt_or_eq
  · obtain ⟨num, den, -, -, hx⟩ := convertedMagnitude_of_finite (t := t) hlt
    exact hx ▸ roundedMagnitude_le
  · exact (convertedMagnitude_of_infinite heq).le

/-- The conversion of magnitudes grows, through the finite ones, infinity and the payloads. -/
theorem convertedMagnitude_mono (h : x.magnitude ≤ y.magnitude) :
    convertedMagnitude t x ≤ convertedMagnitude t y := by
  obtain hy | hy | hy := Nat.lt_trichotomy y.magnitude (infMagnitude s)
  · obtain ⟨num, den, hden, hvalue, hx⟩ := convertedMagnitude_of_finite (t := t) (h.trans_lt hy)
    obtain ⟨num', den', hden', hvalue', hy⟩ := convertedMagnitude_of_finite (t := t) hy
    rw [hx, hy]
    refine roundedMagnitude_mono hden hden' ?_
    rw [hvalue, hvalue']
    exact absValue_mono h
  · rw [convertedMagnitude_of_infinite hy]
    exact convertedMagnitude_le (h.trans_eq hy)
  · rw [convertedMagnitude_of_nan hy]
    obtain hx | hx := Nat.lt_or_ge (infMagnitude s) x.magnitude
    · rw [convertedMagnitude_of_nan hx]
      gcongr
    · exact (convertedMagnitude_le hx).trans (Nat.le_add_right _ _)

/-- **Numbers of one precision and the nearest of the other have the same order**, as long as NaNs
are quiet. -/
theorem orderKey_convert_le (hx : x.isSignalling = false) (hy : y.isSignalling = false)
    (h : x.orderKey ≤ y.orderKey) :
    (convert t x).orderKey ≤ (convert t y).orderKey := by
  rw [convert_eq hx, convert_eq hy]
  refine orderKey_ofMagnitude_le convertedMagnitude_lt convertedMagnitude_lt (fun hneg ↦ ?_)
    fun hneg ↦ ?_
  · unfold orderKey at h
    rw [if_pos hneg] at h
    cases hx : x.isNegative <;> simp only [hx, if_true, if_false, Bool.false_eq_true] at h
    · omega
    · exact ⟨rfl, convertedMagnitude_mono (by omega)⟩
  · unfold orderKey at h
    rw [if_neg (by simp [hneg])] at h
    refine convertedMagnitude_mono ?_
    split at h <;> omega

end Convert

end Binary

end Tabular
