import Tabular.Conversion.Table
import Tabular.Proofs.Calendar.Zone
import Tabular.Proofs.Order.Rounding
import Tabular.Proofs.Order.Sorted

/-!
# Conversions and the order of rows

A conversion keeps the order of sorted columns exactly if it keeps the order of two values
(`Conversion.inOrder_iff`), where a value that the target cannot hold becomes a null and takes the
place of the nulls.

Most conversions are of one kind: an integer count is moved or scaled, and is a null where it does
not fit. They keep the order if nothing lies beyond the target at the end where the nulls are not:
counts too small may vanish if nulls come before the values, and counts too great if they come after
(`keepsOrder_ofInt?_iff`). For units of time this is a comparison of the units
(`Conversion.keepsOrder_rescale_iff`).

Timestamps that gain a zone are another matter. What lies beyond the calendar at either end is null,
so that counts of seconds lose their order whatever the place of nulls
(`Conversion.keepsOrder_toLocal_iff`), while nanoseconds never leave the calendar
(`Conversion.keepsOrder_toLocal_nanosecond_iff`).
-/

namespace Tabular

namespace Outcome

/-- A relation between the elements of a list, and the one that it is between their results. -/
theorem pairwise_of_mapM {α β : Type} {R : α → α → Prop} {S : β → β → Prop} {f : α → Outcome β}
    {as : List α} {bs : List β} (h : as.Pairwise R) (hbs : as.mapM f = .ok bs)
    (hstep : ∀ a a' b b', R a a' → f a = .ok b → f a' = .ok b' → S b b') : bs.Pairwise S := by
  have hall := mapM_eq_ok.1 hbs
  clear hbs
  induction hall with
  | nil => exact .nil
  | cons hab hall ih =>
    obtain ⟨ha, has⟩ := List.pairwise_cons.1 h
    refine .cons (fun b' hb' ↦ ?_) (ih has)
    obtain ⟨a', ha', hab'⟩ := exists_of_mem_result (mapM_eq_ok.2 hall) hb'
    exact hstep _ _ _ _ (ha a' ha') hab hab'

/-- Functions that agree on the elements of a list traverse it alike. -/
theorem mapM_congr {α β : Type} {f g : α → Outcome β} {as : List α} (h : ∀ a ∈ as, f a = g a) :
    as.mapM f = as.mapM g := by
  induction as with
  | nil => rfl
  | cons a as ih =>
    rw [List.mapM_cons, List.mapM_cons, h a List.mem_cons_self,
      ih fun b hb ↦ h b (List.mem_cons_of_mem _ hb)]

end Outcome

/-- The partial map of values keeps their order, where a value without an image takes the place of
the nulls. -/
def KeepsOrder {α β : Type} (nulls : NullOrder) (cmp : α → α → Ordering) (cmp' : β → β → Ordering)
    (g : α → Option β) : Prop :=
  ∀ v w, (cmp v w).isLE → (compareRows nulls cmp' (g v) (g w)).isLE

/-- A claim of descending order compares as that of ascending order the other way round. -/
theorem Sortedness.isLE_compareRows {claim : Sortedness} {d : DataType} (a b : Option d.Value) :
    (claim.compareRows d a b).isLE =
      match claim.order with
      | .ascending =>
        (Tabular.compareRows claim.nullOrder (d.compareValues claim.nullOrder) a b).isLE
      | .descending =>
        (Tabular.compareRows claim.nullOrder (d.compareValues claim.nullOrder) b a).isLE := by
  obtain ⟨order, nulls⟩ := claim
  cases order with
  | ascending => rfl
  | descending =>
    have hswap : Tabular.compareRows nulls (d.compareValues nulls) b a =
        (Tabular.compareRows nulls (d.compareValues nulls) a b).swap := Std.OrientedCmp.eq_swap
    simp only [hswap]
    rfl

namespace Conversion

variable {s d : DataType} {nulls : NullOrder}

/-- The conversion keeps the order of values, or fails for one of them. -/
def InOrder (nulls : NullOrder) (f : Conversion s d) : Prop :=
  ∀ v w v' w', (s.compareValues nulls v w).isLE → f (some v) = .ok v' → f (some w) = .ok w' →
    (Tabular.compareRows nulls (d.compareValues nulls) v' w').isLE

variable {f : Conversion s d} {claim : Sortedness}

/-- Nulls stay, so a conversion that keeps the order of values keeps that of rows. -/
theorem InOrder.rows (h : f.InOrder nulls) (hnull : f none = .ok none) {a b : Option s.Value}
    {a' b' : Option d.Value}
    (hab : (Tabular.compareRows nulls (s.compareValues nulls) a b).isLE) (ha : f a = .ok a')
    (hb : f b = .ok b') : (Tabular.compareRows nulls (d.compareValues nulls) a' b').isLE := by
  cases a with
  | none =>
    injection hnull.symm.trans ha with ha
    subst ha
    cases b with
    | none =>
      injection hnull.symm.trans hb with hb
      subst hb
      rfl
    | some w => cases nulls <;> cases b' <;> first | rfl | cases hab
  | some v =>
    cases b with
    | none =>
      injection hnull.symm.trans hb with hb
      subst hb
      cases nulls <;> cases a' <;> first | rfl | cases hab
    | some w => exact h v w a' b' hab ha hb

/-- **A conversion keeps the order of sorted rows exactly if it keeps that of two values.** -/
theorem inOrder_iff (hnull : f none = .ok none) : f.InOrder claim.nullOrder ↔
    ∀ rows out, Series.SortedAs ⟨s, rows⟩ claim → rows.mapM f = .ok out →
      Series.SortedAs ⟨d, out⟩ claim := by
  constructor
  · intro h rows out hrows hout
    refine Series.sortedAs_iff_pairwise.2
      (Outcome.pairwise_of_mapM (Series.sortedAs_iff_pairwise.1 hrows) hout
        fun a b a' b' hab ha hb ↦ ?_)
    rw [Sortedness.isLE_compareRows] at hab ⊢
    cases hclaim : claim.order with
    | ascending => exact h.rows hnull (by simpa only [hclaim] using hab) ha hb
    | descending => exact h.rows hnull (by simpa only [hclaim] using hab) hb ha
  · intro h v w v' w' hvw hv hw
    -- For the converse, two values in order make a series of two rows, and the order of its result
    -- is what is asked for.
    have hpair {v w : s.Value} {v' w' : Option d.Value}
        (hvw : (claim.compareRows s (some v) (some w)).isLE) (hv : f (some v) = .ok v')
        (hw : f (some w) = .ok w') : (claim.compareRows d v' w').isLE := by
      have hrows : Series.SortedAs ⟨s, [some v, some w]⟩ claim :=
        Series.sortedAs_iff_pairwise.2 (List.pairwise_pair.2 hvw)
      have hout : [some v, some w].mapM f = .ok [v', w'] :=
        Outcome.mapM_eq_ok.2 (.cons hv (.cons hw .nil))
      have hsorted := Series.sortedAs_iff_pairwise.1 (h _ _ hrows hout)
      rw [List.pairwise_pair] at hsorted
      exact hsorted
    simp only [Sortedness.isLE_compareRows] at hpair
    cases hclaim : claim.order with
    | ascending =>
      simp only [hclaim] at hpair
      exact hpair hvw hv hw
    | descending =>
      simp only [hclaim] at hpair
      exact hpair hvw hw hv

/-- Conversions that never fail keep the order as they keep it for values. -/
@[simp]
theorem inOrder_total {g : s.Value → Option d.Value} :
    InOrder nulls (total g : Conversion s d) ↔
      KeepsOrder nulls (s.compareValues nulls) (d.compareValues nulls) g := by
  constructor
  · intro h v w hvw
    exact h v w _ _ hvw rfl rfl
  · rintro h v w _ _ hvw ⟨⟩ ⟨⟩
    exact h v w hvw

/-- Two values in order whose images are not refute it. -/
theorem not_inOrder (v w : s.Value) {v' w' : Option d.Value}
    (hvw : (s.compareValues nulls v w).isLE) (hv : f (some v) = .ok v') (hw : f (some w) = .ok w')
    (h : (Tabular.compareRows nulls (d.compareValues nulls) v' w').isLE = false) :
    ¬f.InOrder nulls := by
  intro hf
  rw [hf v w v' w' hvw hv hw] at h
  cases h

end Conversion

/-! ### Counts -/

/-- Whether the integers from `lo` to `hi` are all of the type, up to those that may vanish: the
ones on the side of the nulls. -/
def IntType.covers (t : IntType) : NullOrder → Int → Int → Bool
  | .before, _, hi => hi ≤ t.max
  | .after, lo, _ => t.min ≤ lo

section Counts

variable {nulls : NullOrder} {s t : IntType} {g : Int → Int}

/-- The order of integers of a type. -/
def FixedInt.order (a b : FixedInt t) : Ordering := compare a.toInt b.toInt

/-- Integers are in order if their values are. -/
@[simp]
theorem FixedInt.isLE_order {a b : FixedInt t} : (a.order b).isLE ↔ a.toInt ≤ b.toInt :=
  Int.isLE_compare

/-- What is in the range of the type fits. -/
theorem FixedInt.exists_ofInt? {i : Int} (hlo : t.min ≤ i) (hhi : i ≤ t.max) :
    ∃ a, ofInt? t i = some a :=
  ⟨_, dif_pos ⟨hlo, hhi⟩⟩

/-- Two integers in order stay so, with a null for what does not fit, unless one vanishes on the
side away from the nulls and the other one does not. -/
theorem FixedInt.isLE_ofInt?_iff {i j : Int} (h : i ≤ j) :
    (compareRows nulls order (ofInt? t i) (ofInt? t j)).isLE ↔
      match nulls with
      | .before => t.min ≤ i → i ≤ t.max → j ≤ t.max
      | .after => t.min ≤ j → j ≤ t.max → t.min ≤ i := by
  unfold ofInt?
  cases nulls with
  | before =>
    split_ifs with hi hj hj
    · exact iff_of_true (isLE_order.2 h) fun _ _ ↦ hj.2
    · exact iff_of_false Bool.false_ne_true fun hle ↦ hj ⟨by omega, hle hi.1 hi.2⟩
    · exact iff_of_true rfl fun _ _ ↦ hj.2
    · exact iff_of_true rfl fun hlo hhi ↦ absurd ⟨hlo, hhi⟩ hi
  | after =>
    split_ifs with hi hj hj
    · exact iff_of_true (isLE_order.2 h) fun _ _ ↦ hi.1
    · exact iff_of_true rfl fun _ _ ↦ hi.1
    · exact iff_of_false Bool.false_ne_true fun hle ↦ hi ⟨hle hj.1 hj.2, by omega⟩
    · exact iff_of_true rfl fun hlo hhi ↦ absurd ⟨hlo, hhi⟩ hj

/-- **Conversions of counts.** A count that is moved or scaled in the same direction, with a null
for what does not fit, keeps its order exactly if the target covers the images of all counts. -/
theorem keepsOrder_ofInt?_iff (hg : ∀ i j, i ≤ j → g i ≤ g j)
    (hfit : ∃ a : FixedInt s, t.min ≤ g a.toInt ∧ g a.toInt ≤ t.max) :
    KeepsOrder nulls FixedInt.order FixedInt.order
      (fun a : FixedInt s ↦ FixedInt.ofInt? t (g a.toInt)) ↔
        t.covers nulls (g s.min) (g s.max) = true := by
  have hiff : KeepsOrder nulls FixedInt.order FixedInt.order
      (fun a : FixedInt s ↦ FixedInt.ofInt? t (g a.toInt)) ↔
        ∀ a b : FixedInt s, a.toInt ≤ b.toInt →
          match nulls with
          | .before => t.min ≤ g a.toInt → g a.toInt ≤ t.max → g b.toInt ≤ t.max
          | .after => t.min ≤ g b.toInt → g b.toInt ≤ t.max → t.min ≤ g a.toInt :=
    forall₂_congr fun a b ↦ by
      rw [FixedInt.isLE_order]
      exact forall_congr' fun hab ↦ FixedInt.isLE_ofInt?_iff (hg _ _ hab)
  obtain ⟨a₀, hlo, hhi⟩ := hfit
  have hrange := s.min_le_zero.trans s.zero_le_max
  rw [hiff]
  cases nulls with
  | before =>
    rw [IntType.covers, decide_eq_true_eq]
    exact ⟨fun h ↦ h a₀ ⟨s.max, hrange, Int.le_refl _⟩ a₀.le_max hlo hhi,
      fun h a b _ _ _ ↦ (hg _ _ b.le_max).trans h⟩
  | after =>
    rw [IntType.covers, decide_eq_true_eq]
    exact ⟨fun h ↦ h ⟨s.min, Int.le_refl _, hrange⟩ a₀ a₀.min_le hlo hhi,
      fun h a b _ _ _ ↦ h.trans (hg _ _ a.min_le)⟩

/-- Counts that vanish at both ends, and not between, refute it. -/
theorem not_keepsOrder_of_ends {h : FixedInt s → Option (FixedInt t)} (lo mid hi : FixedInt s)
    {a : FixedInt t} (hlo : lo.toInt ≤ mid.toInt) (hhi : mid.toInt ≤ hi.toInt) (hhlo : h lo = none)
    (hhmid : h mid = some a) (hhhi : h hi = none) :
    ¬KeepsOrder nulls FixedInt.order FixedInt.order h := by
  intro hkeeps
  have hlow := hkeeps lo mid (FixedInt.isLE_order.2 hlo)
  have hhigh := hkeeps mid hi (FixedInt.isLE_order.2 hhi)
  rw [hhlo, hhmid] at hlow
  rw [hhmid, hhhi] at hhigh
  cases nulls with
  | before => cases hhigh
  | after => cases hlow

end Counts

namespace Conversion

open Calendar

variable {nulls : NullOrder} {s : IntType}

/-! ### Units of time -/

/-- Ticks of one unit in another, toward zero and of any size. -/
def scaleTicks (source target : TimeUnit) (i : Int) : Int :=
  if source.perSecond ≤ target.perSecond then i * (target.perSecond / source.perSecond : Nat)
  else i.tdiv (source.perSecond / target.perSecond : Nat)

/-- Ticks of another unit, if they fit. -/
theorem rescale_eq (source target : TimeUnit) (i : Int) :
    rescale source target i = FixedInt.ofInt? .int64 (scaleTicks source target i) := by
  unfold rescale scaleTicks
  split_ifs <;> rfl

/-- Scaling keeps the order: it rounds toward zero from both sides. -/
theorem scaleTicks_mono (source target : TimeUnit) {i j : Int} (h : i ≤ j) :
    scaleTicks source target i ≤ scaleTicks source target j := by
  unfold scaleTicks
  split_ifs with hle
  · exact Int.mul_le_mul_of_nonneg_right h (Int.natCast_nonneg _)
  · refine Int.tdiv_le_tdiv ?_ h
    exact_mod_cast Nat.div_pos (Nat.le_of_not_le hle) target.perSecond_pos

/-- The first instant is the same in every unit. -/
@[simp]
theorem scaleTicks_zero (source target : TimeUnit) : scaleTicks source target 0 = 0 := by
  unfold scaleTicks
  split_ifs <;> simp

/-- **Conversions between units of time** keep the order exactly if the target is no finer. -/
theorem keepsOrder_rescale_iff {source target : TimeUnit} :
    KeepsOrder nulls FixedInt.order FixedInt.order
      (fun a : FixedInt .int64 ↦ rescale source target a.toInt) ↔
        target.perSecond ≤ source.perSecond := by
  simp only [rescale_eq]
  rw [keepsOrder_ofInt?_iff (fun _ _ ↦ scaleTicks_mono source target)
    ⟨⟨0, by decide, by decide⟩, by simp only [scaleTicks_zero]; decide⟩]
  cases nulls <;> cases source <;> cases target <;> decide

/-- What gains no zone stays. -/
@[simp]
theorem bind_enterZone_none (unit : TimeUnit) (x : Option (FixedInt .int64)) :
    x.bind (enterZone unit none) = x :=
  Option.bind_fun_some x

/-! ### Timestamps that gain a zone -/

/-- The least number of ticks. -/
theorem int64_min : IntType.int64.min = -9223372036854775808 := by decide

/-- The greatest number of ticks. -/
theorem int64_max : IntType.int64.max = 9223372036854775807 := by decide

/-- Ticks of one unit as local ticks of another in a zone. -/
def toLocal? (source target : TimeUnit) (zone : String) (i : Int) : Option (FixedInt .int64) :=
  (rescale source target i).bind (asLocal? target zone)

/-- Whether ticks name no date, or are too many to be counted in the other unit. -/
def beyondCalendar (source target : TimeUnit) (i : Int) : Bool :=
  (rescale source target i).all fun a ↦ !dateInRange (dayOf target a.toInt)

variable {source target : TimeUnit} {zone : String} {offset : Int}

/-- What lies beyond has no local time. -/
theorem toLocal?_of_beyond {i : Int} (h : beyondCalendar source target i = true) :
    toLocal? source target zone i = none := by
  unfold toLocal?
  unfold beyondCalendar at h
  cases hi : rescale source target i with
  | none => rfl
  | some a =>
    rw [hi, Option.all_some, Bool.not_eq_true'] at h
    cases hzone : offset? zone with
    | none => exact asLocal?_of_no_offset hzone
    | some offset => rw [Option.bind_some, asLocal?_eq hzone, if_neg fun hdates ↦ ?_]; simp_all

/-- Where there is no offset, there is no local time. -/
theorem toLocal?_of_no_offset (hzone : offset? zone = none) (i : Int) :
    toLocal? source target zone i = none := by
  unfold toLocal?
  cases rescale source target i with
  | none => rfl
  | some a => exact asLocal?_of_no_offset hzone

/-- What is no zone leaves nulls only, which are in order. -/
theorem keepsOrder_toLocal_of_no_offset {s : IntType} (g : Int → Int)
    (hzone : offset? zone = none) : KeepsOrder nulls FixedInt.order FixedInt.order
      fun a : FixedInt s ↦ toLocal? source target zone (g a.toInt) := by
  simp only [toLocal?_of_no_offset hzone]
  exact fun _ _ _ ↦ rfl

/-- The first instant has a local time in every zone. -/
theorem exists_toLocal?_zero (source target : TimeUnit) (hzone : offset? zone = some offset) :
    ∃ a, toLocal? source target zone 0 = some a := by
  obtain ⟨a, ha⟩ : ∃ a, rescale source target 0 = some a := by
    rw [rescale_eq, scaleTicks_zero]
    exact FixedInt.exists_ofInt? (by decide) (by decide)
  have hzero : a.toInt = 0 := by
    rw [rescale_eq, scaleTicks_zero] at ha
    exact FixedInt.toInt_ofInt? ha
  have hoffset := offset?_bounds hzone
  dsimp only [secondsPerDay] at hoffset
  rw [toLocal?, ha, Option.bind_some, asLocal?_eq hzone, hzero, if_pos]
  · refine FixedInt.exists_ofInt? ?_ ?_ <;> simp only [int64_min, int64_max] <;> cases target <;>
      simp only [TimeUnit.perSecond] <;> omega
  · simp only [dateInRange_dayOf_iff]
    cases target <;> simp only [TimeUnit.perSecond] <;> omega

/-- **Counts that go beyond the calendar** lose both ends if they gain a zone, and so their order,
unless it is no zone and they are lost altogether. -/
theorem keepsOrder_toLocal_iff {s : IntType} {g : Int → Int} (hzero : g 0 = 0)
    (hmin : beyondCalendar source target (g s.min) = true)
    (hmax : beyondCalendar source target (g s.max) = true) :
    KeepsOrder nulls FixedInt.order FixedInt.order
      (fun a : FixedInt s ↦ toLocal? source target zone (g a.toInt)) ↔
        (offset? zone).isNone = true := by
  cases hzone : offset? zone with
  | none => exact iff_of_true (keepsOrder_toLocal_of_no_offset g hzone) rfl
  | some offset =>
    obtain ⟨a, ha⟩ := exists_toLocal?_zero source target hzone
    have hrange := s.min_le_zero.trans s.zero_le_max
    refine iff_of_false ?_ Bool.false_ne_true
    exact not_keepsOrder_of_ends ⟨s.min, Int.le_refl _, hrange⟩ ⟨0, s.min_le_zero, s.zero_le_max⟩
      ⟨s.max, hrange, Int.le_refl _⟩ s.min_le_zero s.zero_le_max (toLocal?_of_beyond hmin)
      (by simpa only [hzero] using ha) (toLocal?_of_beyond hmax)

/-- Nanoseconds are a few hundred years, in whatever unit. -/
theorem scaleTicks_nanosecond_bounds (target : TimeUnit) (a : FixedInt .int64) :
    (IntType.int64.min ≤ scaleTicks .nanosecond target a.toInt ∧
      scaleTicks .nanosecond target a.toInt ≤ IntType.int64.max) ∧
    -10000000000 * (target.perSecond : Int) ≤ scaleTicks .nanosecond target a.toInt ∧
      scaleTicks .nanosecond target a.toInt ≤ 10000000000 * (target.perSecond : Int) := by
  have hlo := scaleTicks_mono .nanosecond target a.min_le
  have hhi := scaleTicks_mono .nanosecond target a.le_max
  have hmin : IntType.int64.min ≤ scaleTicks .nanosecond target IntType.int64.min ∧
      -10000000000 * (target.perSecond : Int) ≤
        scaleTicks .nanosecond target IntType.int64.min := by cases target <;> decide
  have hmax : scaleTicks .nanosecond target IntType.int64.max ≤ IntType.int64.max ∧
      scaleTicks .nanosecond target IntType.int64.max ≤
        10000000000 * (target.perSecond : Int) := by cases target <;> decide
  omega

/-- Nanoseconds stay within the calendar. -/
theorem toLocal?_nanosecond (hzone : offset? zone = some offset) (a : FixedInt .int64) :
    toLocal? .nanosecond target zone a.toInt = FixedInt.ofInt? .int64
      (scaleTicks .nanosecond target a.toInt - offset * target.perSecond) := by
  have hoffset := offset?_bounds hzone
  dsimp only [secondsPerDay] at hoffset
  obtain ⟨hfits, hnear⟩ := scaleTicks_nanosecond_bounds target a
  have hrescale : rescale .nanosecond target a.toInt = some ⟨_, hfits.1, hfits.2⟩ := by
    rw [rescale_eq]
    exact dif_pos hfits
  rw [toLocal?, hrescale, Option.bind_some, asLocal?_eq hzone, if_pos]
  · rfl
  · simp only [dateInRange_dayOf_iff]
    cases target <;> simp only [TimeUnit.perSecond] at hnear ⊢ <;> omega

/-- **Nanoseconds that gain a zone** keep their order unless they are still counted in nanoseconds
and the offset pushes those at the end away from the nulls out of range. -/
theorem keepsOrder_toLocal_nanosecond_iff (hzone : offset? zone = some offset) :
    KeepsOrder nulls FixedInt.order FixedInt.order
      (fun a : FixedInt .int64 ↦ toLocal? .nanosecond target zone a.toInt) ↔
        target = .nanosecond →
          match nulls with
          | .before => 0 ≤ offset
          | .after => offset ≤ 0 := by
  simp only [toLocal?_nanosecond hzone]
  have hoffset := offset?_bounds hzone
  dsimp only [secondsPerDay] at hoffset
  rw [keepsOrder_ofInt?_iff
    (g := fun i ↦ scaleTicks .nanosecond target i - offset * target.perSecond)
    (fun _ _ h ↦ Int.sub_le_sub_right (scaleTicks_mono _ _ h) _)
    ⟨⟨0, by decide, by decide⟩, ?_⟩]
  · cases nulls <;> cases target <;>
      simp [IntType.covers, scaleTicks, TimeUnit.perSecond, int64_min, int64_max] <;> omega
  · simp only [scaleTicks_zero, int64_min, int64_max]
    cases target <;> simp only [TimeUnit.perSecond] <;> omega

end Conversion

end Tabular
