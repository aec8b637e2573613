import Tabular.Conversion.Cast
import Tabular.Proofs.Order.Conversion
import Tabular.Proofs.Order.Flags

/-!
# Casts of sorted columns

A cast passes on the claim of its column. Whether the claim survives depends on the two types and on
the place of nulls: `DataType.castKeepsOrder` is the table. Casts keep the order of numbers that the
target can hold, or that vanish where the nulls are, and of times in a unit that is no finer than
their own. They lose the order of numbers as text, of text as numbers, of floating-point numbers as
integers or truth values, and of dates or coarse timestamps that gain a zone, whose first and last
ones leave the calendar.

The table is proved right type by type (`DataType.tableDecides_of_canCast`), each entry by a
conversion of counts, units or zones, or by two values whose order is lost. From there it is a
matter of rows: a cast converts each of them, so it keeps sorted series exactly if the table says so
(`Series.sortedAs_cast_iff`), and as it passes on every claim, that decides about claims too
(`Expr.castsKeep_iff`).

Between the precisions of floating point only signalling NaNs change their place, as they become
quiet; `Series.sortedAs_cast_float` is for columns without them.
-/

namespace Tabular

/-! ### The conversions that casts use -/

section Values

open Conversion

variable {nulls : NullOrder} {t t' : IntType} {p q : FloatType}

/-- False is nought and true is one. -/
theorem keepsOrder_boolean_integer :
    KeepsOrder nulls (DataType.boolean.compareValues nulls) FixedInt.order
      fun b : Bool ↦ FixedInt.ofInt? t (if b then 1 else 0) := by
  intro v w hvw
  have hle : (if v then 1 else 0 : Int) ≤ if w then 1 else 0 := by
    cases v <;> cases w <;> first | decide | cases hvw
  have hmin := t.min_le_zero
  have hmax := t.one_le_max
  rw [FixedInt.isLE_ofInt?_iff hle]
  cases nulls <;> cases v <;> cases w <;> simp <;> omega

theorem keepsOrder_boolean_float :
    KeepsOrder nulls (DataType.boolean.compareValues nulls) ((DataType.float p).compareValues nulls)
      fun b : Bool ↦ some (Binary.ofInt (if b then 1 else 0)) := by
  intro v w hvw
  refine Int.isLE_compare.2 (Binary.orderKey_ofInt_le ?_)
  cases v <;> cases w <;> first | decide | cases hvw

/-- Integers other than nought are true, so there must be none below it. -/
theorem keepsOrder_integer_boolean_iff :
    KeepsOrder nulls FixedInt.order (DataType.boolean.compareValues nulls)
      (fun i : FixedInt t ↦ some (decide (i.toInt ≠ 0))) ↔ t.signed = false := by
  constructor
  -- The values -1 and 0 are in order, but become true and false.
  · intro h
    by_contra hsigned
    have hmin : t.min ≤ -1 := by
      revert hsigned
      cases t <;> decide
    have hzero := t.zero_le_max
    have hpair := h ⟨-1, hmin, by omega⟩ ⟨0, t.min_le_zero, hzero⟩
      (FixedInt.isLE_order.2 (Int.neg_le_of_neg_le (Int.zero_le_ofNat 1)))
    cases hpair
  · intro hsigned v w hvw
    have hmin : t.min = 0 := by rw [IntType.min, hsigned]; rfl
    have hv := v.min_le
    have hvw := FixedInt.isLE_order.1 hvw
    by_cases hv : v.toInt = 0
    · simp only [hv, ne_eq, not_true_eq_false, decide_false]
      cases decide (w.toInt ≠ 0) <;> rfl
    · have hw : w.toInt ≠ 0 := by omega
      simp only [hv, hw, ne_eq, not_false_eq_true, decide_true]
      rfl

/-- The nearest numbers have the order of the integers. -/
theorem keepsOrder_integer_float :
    KeepsOrder nulls FixedInt.order ((DataType.float p).compareValues nulls)
      fun i : FixedInt t ↦ some (Binary.ofInt i.toInt) :=
  fun _ _ hvw ↦ Int.isLE_compare.2 (Binary.orderKey_ofInt_le (FixedInt.isLE_order.1 hvw))

/-- The integers of one type as those of another. -/
theorem keepsOrder_integer_iff :
    KeepsOrder nulls FixedInt.order FixedInt.order
      (fun i : FixedInt t ↦ FixedInt.ofInt? t' i.toInt) ↔ t'.covers nulls t.min t.max = true :=
  keepsOrder_ofInt?_iff (fun _ _ h ↦ h)
    ⟨⟨0, t.min_le_zero, t.zero_le_max⟩, t'.min_le_zero, t'.zero_le_max⟩

/-- Dates in days as timestamps, if no zone is entered. -/
theorem keepsOrder_days_iff {unit : TimeUnit} :
    KeepsOrder nulls FixedInt.order FixedInt.order
      (fun a : FixedInt .int32 ↦ rescale .second unit (a.toInt * Calendar.secondsPerDay)) ↔
        unit.perSecond ≤ 1000 := by
  simp only [rescale_eq]
  have hmono {i j : Int} (h : i ≤ j) : scaleTicks .second unit (i * Calendar.secondsPerDay) ≤
      scaleTicks .second unit (j * Calendar.secondsPerDay) :=
    scaleTicks_mono _ _ (Int.mul_le_mul_of_nonneg_right h (by decide))
  rw [keepsOrder_ofInt?_iff (g := fun i ↦ scaleTicks .second unit (i * Calendar.secondsPerDay))
    (fun _ _ ↦ hmono)
    ⟨⟨0, by decide, by decide⟩, by simp only [Int.zero_mul, scaleTicks_zero]; decide⟩]
  cases nulls <;> cases unit <;> decide

theorem keepsOrder_days_millis :
    KeepsOrder nulls FixedInt.order FixedInt.order
      fun a : FixedInt .int32 ↦ ticks? (a.toInt * millisPerDay) := by
  refine (keepsOrder_ofInt?_iff (g := fun i ↦ i * millisPerDay)
    (fun _ _ h ↦ Int.mul_le_mul_of_nonneg_right h (by decide))
    ⟨⟨0, by decide, by decide⟩, by decide⟩).2 ?_
  cases nulls <;> decide

/-- The day of a timestamp in its own zone. -/
def timestampDays (unit : TimeUnit) (zone : Option String) (i : FixedInt .int64) :
    Outcome (Option (FixedInt .int32)) :=
  match zonedTime? unit zone i.toInt with
  | some t => .ok (FixedInt.ofInt? .int32 t.days)
  | none => kernelFault .dateOutOfRange

/-- A day of the calendar, counted from ticks of the zone. -/
theorem timestampDays_eq_ok {unit : TimeUnit} {zone : Option String} {i : FixedInt .int64}
    {row : Option (FixedInt .int32)} (h : timestampDays unit zone i = .ok row) :
    ∃ days, row = FixedInt.ofInt? .int32 days ∧ Calendar.dateInRange days = true ∧
      days = (i.toInt.fdiv unit.perSecond + Calendar.zoneOffset zone).fdiv
        Calendar.secondsPerDay := by
  unfold timestampDays at h
  split at h
  · next t ht =>
    obtain ⟨hdays, hrange⟩ := Calendar.days_zonedTime? ht
    exact ⟨t.days, Outcome.ok_eq_ok.1 h, hrange, hdays⟩
  · cases h

/-- Days of timestamps are in order, and all of them fit. -/
theorem inOrder_timestampDays {unit : TimeUnit} {zone : Option String} :
    InOrder nulls
      (onValues (timestampDays unit zone) : Conversion (.timestamp unit zone) .date32) := by
  intro v w v' w' hvw hv hw
  obtain ⟨days, rfl, hrange, hdays⟩ := timestampDays_eq_ok hv
  obtain ⟨days', rfl, hrange', hdays'⟩ := timestampDays_eq_ok hw
  have hle : days ≤ days' := by
    rw [hdays, hdays', Int.fdiv_eq_ediv_of_nonneg _ (Int.natCast_nonneg _),
      Int.fdiv_eq_ediv_of_nonneg _ (Int.natCast_nonneg _), Int.fdiv_eq_ediv_of_nonneg _ (by decide),
      Int.fdiv_eq_ediv_of_nonneg _ (by decide)]
    have hpos : (0 : Int) < unit.perSecond := by exact_mod_cast unit.perSecond_pos
    exact Int.ediv_le_ediv (by decide)
      (Int.add_le_add_right (Int.ediv_le_ediv hpos (FixedInt.isLE_order.1 hvw)) _)
  rw [Calendar.dateInRange_iff] at hrange hrange'
  have hmin : IntType.int32.min = -2147483648 := by decide
  have hmax : IntType.int32.max = 2147483647 := by decide
  refine (FixedInt.isLE_ofInt?_iff hle).2 ?_
  cases nulls <;> intro _ _ <;> omega

end Values

/-! ### The table -/

/-- Whether dates as timestamps of the unit keep their order: without a zone in seconds and
milliseconds, and with one never, unless it is no offset, where no cast succeeds. -/
def TimeUnit.keepsDates (unit : TimeUnit) : Option String → Bool
  | none => unit.perSecond ≤ 1000
  | some zone => (Calendar.offset? zone).isNone

/-- Whether timestamps of the unit keep their order as those of another in a zone: nanoseconds do,
unless they stay nanoseconds and the offset moves the ones at the end away from the nulls out of
range. -/
def TimeUnit.keepsLocal (nulls : NullOrder) (unit unit' : TimeUnit) (zone : String) : Bool :=
  match Calendar.offset? zone with
  | none => true
  | some offset => unit = .nanosecond && (unit' ≠ .nanosecond ||
    match nulls with
    | .before => 0 ≤ offset
    | .after => offset ≤ 0)

namespace DataType

/-- Whether a cast keeps the order of sorted columns, by its types and the place of nulls. -/
def castKeepsOrder (nulls : NullOrder) : DataType → DataType → Bool
  | null, _ => true
  | boolean, _ => true
  | integer t, boolean => !t.signed
  | integer t, integer t' => t'.covers nulls t.min t.max
  | integer _, float _ => true
  | text _, text _ => true
  | date32, integer t => t.covers nulls IntType.int32.min IntType.int32.max
  | date32, date64 => true
  | date32, timestamp unit zone => unit.keepsDates zone
  | date64, integer t => t.covers nulls IntType.int64.min IntType.int64.max
  | date64, timestamp unit zone => unit.keepsDates zone
  | timestamp _ _, integer t => t.covers nulls IntType.int64.min IntType.int64.max
  | timestamp _ _, date32 => true
  | timestamp unit _, date64 => 1000 ≤ unit.perSecond
  | timestamp unit none, timestamp unit' (some zone) => unit.keepsLocal nulls unit' zone
  | timestamp unit _, timestamp unit' _ => unit'.perSecond ≤ unit.perSecond
  | duration _, integer t => t.covers nulls IntType.int64.min IntType.int64.max
  | duration unit, duration unit' => unit'.perSecond ≤ unit.perSecond
  | s, d => s = d

/-- What is not converted keeps its order. -/
@[simp]
theorem castKeepsOrder_self (nulls : NullOrder) (d : DataType) :
    d.castKeepsOrder nulls d = true := by
  cases d with
  | integer t => cases nulls <;> simp [castKeepsOrder, IntType.covers]
  | timestamp unit zone => cases zone <;> simp [castKeepsOrder]
  | _ => simp [castKeepsOrder]

/-- The table tells whether the conversion from `s` to `d` keeps the order of values. -/
def TableDecides (nulls : NullOrder) (s d : DataType) : Prop :=
  ∃ f : Conversion s d, conversion? s d = some f ∧ f none = .ok none ∧
    (f.InOrder nulls ↔ castKeepsOrder nulls s d = true)

section Table

open Conversion

variable {nulls : NullOrder} {s d : DataType}

/-- For a conversion that does not fail, the table has to be right about values. -/
theorem TableDecides.of_total {g : s.Value → Option d.Value}
    (hg : conversion? s d = some (total g))
    (h : KeepsOrder nulls (s.compareValues nulls) (d.compareValues nulls) g ↔
      castKeepsOrder nulls s d = true) : TableDecides nulls s d :=
  ⟨_, hg, rfl, inOrder_total.trans h⟩

/-- Truth values become numbers in their order. -/
theorem tableDecides_boolean (h : canCast boolean d = true) (hne : boolean ≠ d) :
    TableDecides nulls boolean d := by
  cases d with
  | integer t => exact .of_total rfl (iff_of_true keepsOrder_boolean_integer rfl)
  | float p =>
    cases p with
    | half => cases h
    | _ => exact .of_total rfl (iff_of_true keepsOrder_boolean_float rfl)
  | boolean => exact absurd rfl hne
  | _ => cases h

/-- Integers lose their order as text, as truth values if they are signed, and as integers that do
not cover them. -/
theorem tableDecides_integer {t : IntType} (h : canCast (integer t) d = true) :
    TableDecides nulls (integer t) d := by
  cases d with
  | boolean => exact .of_total rfl (keepsOrder_integer_boolean_iff.trans (by simp [castKeepsOrder]))
  | integer t' => exact .of_total rfl keepsOrder_integer_iff
  | float p =>
    cases p with
    | half => cases h
    | _ => exact .of_total rfl (iff_of_true keepsOrder_integer_float rfl)
  | text layout =>
    -- "9" stands after "10"
    refine ⟨_, rfl, rfl, iff_of_false
      (not_inOrder (FixedInt.wrap t 9) (FixedInt.wrap t 10) ?_ rfl rfl ?_) Bool.false_ne_true⟩ <;>
      cases t <;> rfl
  | _ => cases h

/-- Text has an order of its own. -/
theorem tableDecides_text {layout : TextType} (h : canCast (text layout) d = true) :
    TableDecides nulls (text layout) d := by
  cases d with
  | integer t =>
    -- and "10" before "9"
    refine ⟨_, rfl, rfl, iff_of_false (not_inOrder "10" "9" rfl rfl rfl ?_) Bool.false_ne_true⟩
    cases t <;> rfl
  | float p =>
    cases p with
    | half => cases h
    | _ => exact ⟨_, rfl, rfl, iff_of_false (not_inOrder "10" "9" rfl rfl rfl rfl)
      Bool.false_ne_true⟩
  | text layout' =>
    refine ⟨_, rfl, rfl, iff_of_true (fun v w v' w' hvw hv hw ↦ ?_) rfl⟩
    injection hv with hv
    injection hw with hw
    exact hv ▸ hw ▸ hvw
  | _ => cases h

/-- Half precision casts to itself only. -/
theorem eq_of_canCast_half (h : canCast (float .half) d = true) : float .half = d := by
  have hfamily : sameFamily (float .half) d = false := by cases d <;> rfl
  simpa [canCast, hfamily] using h

/-- Floating-point numbers stay in order as numbers of no other type. -/
theorem tableDecides_float {p : FloatType} (h : canCast (float p) d = true) (hne : float p ≠ d) :
    TableDecides nulls (float p) d := by
  have hp : p ≠ .half := by
    rintro rfl
    exact hne (eq_of_canCast_half h)
  cases d with
  | boolean =>
    refine ⟨_, rfl, rfl, iff_of_false
      (not_inOrder (Binary.ofInt (-1)) Binary.zero ?_ rfl rfl ?_) Bool.false_ne_true⟩ <;>
      cases p <;> rfl
  | integer t =>
    -- infinities are too great or too small for any integer
    have hinf {negative : Bool} : (Binary.inf negative : Binary p).truncate? = none := by
      cases negative <;> cases p <;> decide
    have hzero : (Binary.zero : Binary p).truncate? = some 0 := by
      cases p <;> decide +kernel
    have hfit : FixedInt.ofInt? t 0 = some ⟨0, t.min_le_zero, t.zero_le_max⟩ :=
      dif_pos ⟨t.min_le_zero, t.zero_le_max⟩
    refine .of_total rfl (iff_of_false (fun h ↦ ?_) Bool.false_ne_true)
    have hlow := h (Binary.inf true) Binary.zero (by cases p <;> rfl)
    have hhigh := h Binary.zero (Binary.inf false) (by cases p <;> rfl)
    simp only [hinf, hzero, hfit, Option.bind_none, Option.bind_some] at hlow hhigh
    cases nulls with
    | before => cases hhigh
    | after => cases hlow
  | float q =>
    -- a signalling NaN becomes quiet and passes another NaN
    have hfalse : ¬castKeepsOrder nulls (float p) (float q) = true := by
      simpa [castKeepsOrder] using hne
    refine ⟨_, rfl, rfl, iff_of_false (not_inOrder
      (Binary.ofMagnitude false (Binary.infMagnitude p + Binary.quietWeight p - 1))
      (Binary.nan false) ?_ rfl rfl ?_) hfalse⟩
    · cases p <;> rfl
    · cases p <;> cases q <;> rfl
  | text layout =>
    refine ⟨_, rfl, rfl, iff_of_false
      (not_inOrder (Binary.ofInt 9) (Binary.ofInt 10) ?_ rfl rfl ?_) Bool.false_ne_true⟩ <;>
      cases p <;> rfl
  | _ =>
    cases p with
    | half => exact absurd rfl hp
    | _ => cases h

theorem tableDecides_date32 (h : canCast date32 d = true) (hne : date32 ≠ d) :
    TableDecides nulls date32 d := by
  cases d with
  | integer t =>
    cases t <;> first
      | exact .of_total rfl keepsOrder_integer_iff
      | exact absurd h (by decide)
  | date64 => exact .of_total rfl (iff_of_true keepsOrder_days_millis rfl)
  | date32 => exact absurd rfl hne
  | timestamp unit zone =>
    cases zone with
    | none =>
      refine .of_total rfl ?_
      simp only [bind_enterZone_none]
      exact keepsOrder_days_iff.trans decide_eq_true_iff.symm
    | some zone =>
      refine .of_total rfl (keepsOrder_toLocal_iff (g := fun i ↦ i * Calendar.secondsPerDay) rfl
        ?_ ?_) <;> cases unit <;> decide
  | _ => cases h

/-- Dates in milliseconds are counts like timestamps. -/
theorem tableDecides_date64 (h : canCast date64 d = true) (hne : date64 ≠ d) :
    TableDecides nulls date64 d := by
  cases d with
  | integer t =>
    cases t <;> first
      | exact .of_total rfl keepsOrder_integer_iff
      | exact absurd h (by decide)
  | date64 => exact absurd rfl hne
  | date32 =>
    -- the number of days is cut to its low bits
    exact ⟨_, rfl, rfl, iff_of_false (not_inOrder (FixedInt.wrap .int64 0)
      (FixedInt.wrap .int64 (2147483648 * millisPerDay)) rfl rfl rfl rfl) Bool.false_ne_true⟩
  | timestamp unit zone =>
    cases zone with
    | none =>
      refine .of_total rfl ?_
      simp only [bind_enterZone_none]
      exact keepsOrder_rescale_iff.trans decide_eq_true_iff.symm
    | some zone =>
      refine .of_total rfl (keepsOrder_toLocal_iff (g := id) rfl ?_ ?_) <;> cases unit <;> decide
  | _ => cases h

/-- Timestamps that gain a zone. -/
theorem keepsOrder_keepsLocal_iff {unit unit' : TimeUnit} {zone : String} :
    KeepsOrder nulls FixedInt.order FixedInt.order
      (fun a : FixedInt .int64 ↦ toLocal? unit unit' zone a.toInt) ↔
        unit.keepsLocal nulls unit' zone = true := by
  by_cases hunit : unit = .nanosecond
  · subst hunit
    cases hzone : Calendar.offset? zone with
    | none =>
      simp only [TimeUnit.keepsLocal, hzone, iff_true]
      exact keepsOrder_toLocal_of_no_offset id hzone
    | some offset =>
      rw [keepsOrder_toLocal_nanosecond_iff hzone]
      cases nulls <;> by_cases htarget : unit' = .nanosecond <;>
        simp [TimeUnit.keepsLocal, hzone, htarget]
  · have hfar (i : Int) (hi : i = IntType.int64.min ∨ i = IntType.int64.max) :
        beyondCalendar unit unit' i = true := by
      obtain rfl | rfl := hi <;> cases unit <;> cases unit' <;>
        first | decide | exact absurd rfl hunit
    refine (keepsOrder_toLocal_iff (g := id) rfl (hfar _ (.inl rfl)) (hfar _ (.inr rfl))).trans ?_
    cases hzone : Calendar.offset? zone <;> simp [TimeUnit.keepsLocal, hzone, hunit]

/-- Timestamps, by their units and by whether they gain a zone. -/
theorem tableDecides_timestamp {unit : TimeUnit} {zone : Option String}
    (h : canCast (timestamp unit zone) d = true) : TableDecides nulls (timestamp unit zone) d := by
  cases d with
  | integer t => exact .of_total rfl keepsOrder_integer_iff
  | date32 => exact ⟨_, rfl, rfl, iff_of_true inOrder_timestampDays rfl⟩
  | date64 => exact .of_total rfl (keepsOrder_rescale_iff.trans decide_eq_true_iff.symm)
  | timestamp unit' zone' =>
    refine .of_total rfl ?_
    match zone, zone' with
    | none, none =>
      simp only [Option.isNone_none, if_true, bind_enterZone_none]
      exact keepsOrder_rescale_iff.trans decide_eq_true_iff.symm
    | none, some zone => exact keepsOrder_keepsLocal_iff
    | some _, zone' =>
      simp only [Option.isNone_some, Bool.false_eq_true, if_false, Option.bind_fun_some]
      cases zone' <;> exact keepsOrder_rescale_iff.trans decide_eq_true_iff.symm
  | _ => cases h

theorem tableDecides_duration {unit : TimeUnit} (h : canCast (duration unit) d = true) :
    TableDecides nulls (duration unit) d := by
  cases d with
  | integer t => exact .of_total rfl keepsOrder_integer_iff
  | duration unit' => exact .of_total rfl (keepsOrder_rescale_iff.trans decide_eq_true_iff.symm)
  | _ => cases h

/-- **The table is right** for every pair of types that a cast converts between. -/
theorem tableDecides_of_canCast (h : s.canCast d = true) (hne : s ≠ d) (hnull : s ≠ null) :
    TableDecides nulls s d := by
  cases s with
  | null => exact absurd rfl hnull
  | boolean => exact tableDecides_boolean h hne
  | integer t => exact tableDecides_integer h
  | float p => exact tableDecides_float h hne
  | text layout => exact tableDecides_text h
  | date32 => exact tableDecides_date32 h hne
  | date64 => exact tableDecides_date64 h hne
  | timestamp unit zone => exact tableDecides_timestamp h
  | duration unit => exact tableDecides_duration h
  | list item =>
    have hlist : decide (list item = d) = false := decide_eq_false hne
    cases d <;> simp_all [canCast, sameFamily, isNumeric, isInteger, isText, isTemporal]

/-- The table has no order to deny where a cast fails because of its zone. -/
theorem castKeepsOrder_of_unknownZone {zone : String} (h : s.canCast d = true) (hne : s ≠ d)
    (hnull : s ≠ null) (hzone : s.unknownZone? d = some zone) :
    s.castKeepsOrder nulls d = true := by
  obtain ⟨hread, hoffset⟩ := Option.filter_eq_some_iff.1 hzone
  have hnone : Calendar.offset? zone = none := Option.isNone_iff_eq_none.1 hoffset
  cases d with
  | timestamp unit zone' =>
    cases s with
    | date32 | date64 =>
      obtain rfl : zone' = some zone := hread
      exact hoffset
    | timestamp unit' zone'' =>
      cases zone'' with
      | none =>
        obtain rfl : zone' = some zone := hread
        show TimeUnit.keepsLocal nulls unit' unit zone = true
        rw [TimeUnit.keepsLocal, hnone]
      | some _ => cases hread
    | text _ | list _ => cases h
    | _ => cases hread
  | date32 =>
    cases s with
    | timestamp _ _ => rfl
    | _ => cases hread
  | text _ =>
    cases s with
    | timestamp _ _ | list _ => cases h
    | _ => cases hread
  | list item =>
    have hfamily : sameFamily s (list item) = false := by cases s <;> simp [sameFamily, isNumeric,
      isText, isInteger]
    simp [canCast, hne, hnull, hfamily] at h
  | _ =>
    cases s with
    | timestamp _ zone' => cases zone' <;> cases hread
    | _ => cases hread

end Table

end DataType

/-! ### Casts of flagged columns -/

namespace Series

variable {s d : DataType} {claim : Sortedness}

/-- Nulls are in order. -/
theorem sortedAs_replicate_none (n : Nat) : SortedAs ⟨d, List.replicate n none⟩ claim :=
  sortedAs_iff_pairwise.2 <| List.pairwise_replicate.2 <| .inr <| by
    rw [Sortedness.compareRows_none]
    rfl

/-- A cast to the type of the rows leaves them as they are. -/
@[simp]
theorem cast_self (rows : List (Option d.Value)) : cast ⟨d, rows⟩ d = .ok ⟨d, rows⟩ :=
  if_pos rfl

/-- Rows of the null type are nulls of every type. -/
theorem cast_null (h : DataType.null ≠ d) (rows : List (Option DataType.null.Value)) :
    cast ⟨.null, rows⟩ d = .ok ⟨d, List.replicate rows.length none⟩ := by
  have hcan : DataType.null.canCast d = true := by simp [DataType.canCast]
  rw [cast, if_neg h, if_pos hcan, convert, convertRows, dif_neg h, if_pos rfl]
  rfl

/-- A cast to another type converts the rows by one conversion, if there is one. -/
theorem cast_eq_convert (h : s.canCast d = true) (hne : s ≠ d) (hnull : s ≠ .null)
    (rows : List (Option s.Value)) : cast ⟨s, rows⟩ d =
      (Conversion.between s d >>= fun f ↦ rows.mapM f) >>= fun out ↦ .ok ⟨d, out⟩ := by
  rw [cast, if_neg hne, if_pos h, convert, convertRows, dif_neg hne, if_neg hnull]

/-- A cast to another type is a conversion of every row. -/
theorem cast_eq_ok {f : Conversion s d} (h : s.canCast d = true) (hne : s ≠ d) (hnull : s ≠ .null)
    (hf : conversion? s d = some f) (hzone : s.unknownZone? d = none)
    {rows : List (Option s.Value)} {t : Series} :
    cast ⟨s, rows⟩ d = .ok t ↔ ∃ out, rows.mapM f = .ok out ∧ t = ⟨d, out⟩ := by
  rw [cast_eq_convert h hne hnull, Conversion.between_eq_ok hf hzone, Outcome.ok_bind]
  simp only [Outcome.bind_eq_ok, Outcome.ok_eq_ok]

/-- A cast that needs to know a zone that is no offset fails. -/
theorem cast_ne_ok {zone : String} (h : s.canCast d = true) (hne : s ≠ d) (hnull : s ≠ .null)
    (hzone : s.unknownZone? d = some zone) {rows : List (Option s.Value)} {t : Series} :
    cast ⟨s, rows⟩ d ≠ .ok t := by
  obtain ⟨fault, hfault⟩ := Conversion.between_eq_error hzone
  rw [cast_eq_convert h hne hnull, hfault]
  nofun

/-- **A cast keeps the order of sorted rows exactly if the table says so.** -/
theorem sortedAs_cast_iff (h : s.canCast d = true) :
    (∀ rows t, SortedAs ⟨s, rows⟩ claim → cast ⟨s, rows⟩ d = .ok t → t.SortedAs claim) ↔
      s.castKeepsOrder claim.nullOrder d = true := by
  by_cases hne : s = d
  · subst hne
    refine iff_of_true (fun rows t hrows ht ↦ ?_) (DataType.castKeepsOrder_self _ _)
    rw [cast_self, Outcome.ok_eq_ok] at ht
    exact ht ▸ hrows
  by_cases hnull : s = .null
  · subst hnull
    refine iff_of_true (fun rows t _ ht ↦ ?_) rfl
    rw [cast_null hne, Outcome.ok_eq_ok] at ht
    exact ht ▸ sortedAs_replicate_none _
  -- In an unknown zone the cast fails, and has no result that could be out of order.
  cases hzone : s.unknownZone? d with
  | some zone =>
    exact iff_of_true (fun _ _ _ ht ↦ absurd ht (cast_ne_ok h hne hnull hzone))
      (DataType.castKeepsOrder_of_unknownZone h hne hnull hzone)
  | none =>
  obtain ⟨f, hf, hnone, hiff⟩ := DataType.tableDecides_of_canCast h hne hnull
  rw [← hiff, Conversion.inOrder_iff hnone]
  simp only [cast_eq_ok h hne hnull hf hzone]
  exact ⟨fun hcast rows out hrows hout ↦ hcast rows _ hrows ⟨out, hout, rfl⟩,
    fun hrows rows t hsorted ⟨out, hout, ht⟩ ↦ ht ▸ hrows rows out hsorted hout⟩

/-- The conversion between precisions, of numbers that are no signalling NaNs. -/
def quietConversion (p q : FloatType) : Conversion (.float p) (.float q)
  | none => .ok none
  | some x => if x.isSignalling then unsupported (.cast (.float p) (.float q))
    else .ok (some (Binary.convert q x))

/-- A missing number stays missing. -/
@[simp]
theorem quietConversion_none {p q : FloatType} : quietConversion p q none = .ok none := rfl

/-- The conversion goes on with the nearest number unless it is given a signalling NaN. -/
theorem quietConversion_eq_ok {p q : FloatType} {x : Binary p} {row : Option (Binary q)} :
    quietConversion p q (some x) = .ok row ↔
      x.isSignalling = false ∧ row = some (Binary.convert q x) := by
  cases hx : x.isSignalling with
  | true => simp [quietConversion, hx, unsupported]
  | false => simp [quietConversion, hx, eq_comm]

/-- It keeps the order of numbers, since only signalling NaNs move. -/
theorem inOrder_quietConversion {p q : FloatType} {nulls : NullOrder} :
    (quietConversion p q).InOrder nulls := by
  intro v w v' w' hvw hv hw
  obtain ⟨hquiet, rfl⟩ := quietConversion_eq_ok.1 hv
  obtain ⟨hquiet', rfl⟩ := quietConversion_eq_ok.1 hw
  exact Int.isLE_compare.2 (Binary.orderKey_convert_le hquiet hquiet' (Int.isLE_compare.1 hvw))

/-- **Without signalling NaNs, numbers stay in order from one precision to the other.** -/
theorem sortedAs_cast_float {p q : FloatType} (hne : p ≠ q) {rows : List (Option (Binary p))}
    {t : Series} (hquiet : ∀ x, some x ∈ rows → x.isSignalling = false)
    (hrows : SortedAs ⟨.float p, rows⟩ claim) (ht : cast ⟨.float p, rows⟩ (.float q) = .ok t) :
    t.SortedAs claim := by
  have hne' : DataType.float p ≠ .float q := fun h ↦ hne (by injection h)
  have hcan : (DataType.float p).canCast (.float q) = true := by
    by_contra hcan
    rw [cast, if_neg hne', if_neg hcan] at ht
    cases ht
  have hq : q.hasArithmetic = true := by
    cases q with
    | half =>
      cases p with
      | half => exact absurd rfl hne
      | _ => cases hcan
    | _ => rfl
  obtain ⟨out, hout, rfl⟩ := (cast_eq_ok hcan hne' nofun rfl rfl).1 ht
  have hkeep : (quietConversion p q).InOrder claim.nullOrder := inOrder_quietConversion
  rw [Conversion.inOrder_iff quietConversion_none] at hkeep
  refine hkeep rows out hrows ((Outcome.mapM_congr fun row hrow ↦ ?_).trans hout)
  cases row with
  | none => rfl
  | some x =>
    exact quietConversion_eq_ok.2 ⟨hquiet x hrow, congrArg some (Binary.restored_eq_convert hq x)⟩

end Series

namespace Expr

variable {s d : DataType} {claim : Sortedness}

/-- The check of a cast is the capability table. -/
theorem build_cast_eq_ok {e x : Expr} :
    build d .cast [e] = .ok x ↔ e.dtype.canCast d = true ∧ x = node d .cast [e] := by
  have hcheck : Kind.cast.check d [e] = requires (e.dtype.canCast d) (.cast e.dtype d) := rfl
  rw [build, Outcome.bind_eq_ok]
  simp only [Kind.normal, hcheck, requires]
  split_ifs with hcan
  · constructor
    · rintro ⟨_, -, hx⟩
      exact ⟨hcan, Outcome.ok_eq_ok.1 hx⟩
    · rintro ⟨-, rfl⟩
      exact ⟨(), rfl, rfl⟩
  · constructor
    · rintro ⟨_, ⟨⟩, -⟩
    · rintro ⟨h, -⟩
      exact absurd h hcan

/-- A cast passes on the claim of its column. -/
theorem evaluate_cast_eq_ok {f : Frame} {context : Context} {e : Expr} {c t : Column}
    (hc : e.evaluate f context .empty = .ok c) :
    (node d .cast [e]).evaluate f context .empty = .ok t ↔
      ∃ u, c.series.cast d = .ok u ∧ t = ({ series := u } : Column).sortedLike c := by
  have hvalue : (node d .cast [e]).evaluate f context .empty =
      c.series.cast d >>= fun u ↦ .ok (({ series := u } : Column).sortedLike c) := by
    simp only [evaluate, evaluateAll, Mapping.find?_empty, hc]
    rfl
  simp only [hvalue, Outcome.bind_eq_ok, Outcome.ok_eq_ok]

/-- The frame of one column. -/
def frameOf (c : Column) : Frame :=
  ⟨[⟨"x", c⟩], by simp [checkColumns, rowsOfFirst]⟩

/-- Casts from `s` to `d` keep the claim: where a column of type `s` makes it truthfully, so does
the column that a cast of it evaluates to. -/
def CastsKeep (s d : DataType) (claim : Sortedness) : Prop :=
  ∀ (f : Frame) (context : Context) (e x : Expr) (c t : Column), build d .cast [e] = .ok x →
    e.evaluate f context .empty = .ok c → c.dtype = s → c.sorted = some claim → c.Truthful →
      x.evaluate f context .empty = .ok t → t.sorted = some claim ∧ t.Truthful

/-- **A cast keeps a claim of order exactly if the table says so**, for all types that an expression
may cast between. -/
theorem castsKeep_iff (h : s.canCast d = true) :
    CastsKeep s d claim ↔ s.castKeepsOrder claim.nullOrder d = true := by
  rw [← Series.sortedAs_cast_iff h]
  constructor
  -- A series in order is a column of some frame, to which the claim about expressions is applied.
  · intro hkeep rows u hrows hu
    have hx : build d .cast [node s (.col "x") []] = .ok (node d .cast [node s (.col "x") []]) :=
      build_cast_eq_ok.2 ⟨h, rfl⟩
    have htruth : Column.Truthful ⟨⟨s, rows⟩, some claim⟩ := fun _ hclaim ↦ by
      injection hclaim with hclaim
      exact hclaim ▸ hrows
    have hc : (node s (.col "x") []).evaluate (frameOf ⟨⟨s, rows⟩, some claim⟩) .frame .empty =
        .ok ⟨⟨s, rows⟩, some claim⟩ := rfl
    obtain ⟨-, hkept⟩ := hkeep _ _ _ _ _ _ hx hc rfl rfl htruth
      ((evaluate_cast_eq_ok hc).2 ⟨u, hu, rfl⟩)
    exact hkept claim rfl
  · intro hseries f context e x c t hx hc hdtype hclaim htruth ht
    obtain ⟨-, rfl⟩ := build_cast_eq_ok.1 hx
    obtain ⟨u, hu, rfl⟩ := (evaluate_cast_eq_ok hc).1 ht
    obtain ⟨⟨dtype, rows⟩, sorted⟩ := c
    obtain rfl : dtype = s := hdtype
    exact ⟨hclaim, fun claim' hclaim' ↦ by
      obtain rfl : claim = claim' := Option.some_injective _ (hclaim.symm.trans hclaim')
      exact hseries rows u (htruth claim hclaim) hu⟩

/-- Unsigned integers as signed ones: those too great for the target vanish, which keeps the order
only if nulls come after the values. -/
theorem castsKeep_iff_counts :
    DataType.uint64.canCast .int64 = true ∧ ¬CastsKeep .uint64 .int64 ⟨.ascending, .before⟩ ∧
      CastsKeep .uint64 .int64 ⟨.ascending, .after⟩ :=
  ⟨rfl, mt (castsKeep_iff rfl).1 (by decide), (castsKeep_iff rfl).2 rfl⟩

/-- Two texts in order. -/
def numerals : Column :=
  { series := ⟨.utf8, [some "10", some "9"]⟩
    sorted := some ⟨.ascending, .before⟩ }

/-- The numbers that they are the numerals of are not in order, and the cast says that they are. -/
theorem not_castsKeep_numerals :
    DataType.utf8.canCast .int64 = true ∧ numerals.sorted = some ⟨.ascending, .before⟩ ∧
      numerals.Truthful ∧ ∃ t : Column,
        (node .int64 .cast [node .utf8 (.col "x") []]).evaluate (frameOf numerals) .frame .empty =
          .ok t ∧ t.sorted = some ⟨.ascending, .before⟩ ∧ ¬t.Truthful := by
  refine ⟨rfl, rfl, ?_, _, rfl, rfl, fun h ↦ ?_⟩
  · rintro _ ⟨⟩
    decide
  · exact absurd (h ⟨.ascending, .before⟩ rfl) (by decide)

end Expr

end Tabular
