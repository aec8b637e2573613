import Mathlib.Tactic.Ring
import Tabular.Conversion.Table

/-!
# Local times of a zone

A timestamp that gains a zone keeps its local time, so its ticks move by the offset of the zone
(`Conversion.asLocal?_eq`). It has a local time only if the dates before and after the move are in
the calendar, and ticks only if 64 bits hold them.

The move goes by way of the date and time that the ticks name, and comes back without a loss: a date
and time made from ticks has the ticks that it was made from (`Calendar.DateTime.toTicks_ofTicks?`),
and one that is some seconds later has as many ticks more. An offset is less than a day
(`Calendar.offset?_bounds`), so that a local day is at most one day away from the day that the ticks
name.
-/

namespace Tabular

namespace Calendar

/-- **An offset is less than a day.** -/
theorem offset?_bounds {zone : String} {offset : Int} (h : offset? zone = some offset) :
    -secondsPerDay < offset ∧ offset < secondsPerDay := by
  have hseconds {sign : Char} {hours minutes : Option Nat}
      (h : offsetSeconds? sign hours minutes = some offset) :
      -secondsPerDay < offset ∧ offset < secondsPerDay := by
    obtain ⟨hours, -, h⟩ := Option.bind_eq_some_iff.1 h
    obtain ⟨minutes, -, h⟩ := Option.bind_eq_some_iff.1 h
    dsimp only at h
    unfold secondsPerDay
    split_ifs at h <;> cases h <;> omega
  unfold offset? at h
  split at h
  · exact hseconds h
  · exact hseconds h
  · exact hseconds h
  · cases h

/-- The days of the calendar. -/
theorem dateInRange_iff {days : Int} :
    dateInRange days = true ↔ -96465292 ≤ days ∧ days ≤ 95026236 := by
  have hmin : daysOfCivil ⟨minYear, 1, 1⟩ = -96465292 := by decide
  have hmax : daysOfCivil ⟨maxYear, 12, 31⟩ = 95026236 := by decide
  rw [dateInRange, hmin, hmax, Bool.and_eq_true, decide_eq_true_eq, decide_eq_true_eq]

namespace DateTime

variable {unit : TimeUnit} {ticks seconds : Int} {t t' : DateTime}

/-- Ticks name no date and time if their day is beyond the calendar. -/
theorem ofTicks?_eq_none_iff {perSecond : Nat} : ofTicks? perSecond ticks = none ↔
    ¬dateInRange ((ticks.fdiv perSecond).fdiv secondsPerDay) = true := by
  simp [ofTicks?]

/-- Nor does a date and time that is moved there. -/
theorem shift?_eq_none_iff : t.shift? seconds = none ↔
    ¬dateInRange ((t.timestamp + seconds).fdiv secondsPerDay) = true := by
  simp [shift?]

/-- A date and time made from ticks is as many whole seconds after 1970. -/
theorem timestamp_ofTicks? {perSecond : Nat} (h : ofTicks? perSecond ticks = some t) :
    t.timestamp = ticks.fdiv perSecond := by
  simp only [ofTicks?, Option.ite_none_right_eq_some, Option.some.injEq] at h
  obtain ⟨-, rfl⟩ := h
  rw [timestamp, Int.fdiv_eq_ediv_of_nonneg _ (by decide)]
  dsimp only [secondsPerDay]
  omega

/-- **The ticks of a date and time made from ticks** are the ones it was made from. -/
theorem toTicks_ofTicks? (h : ofTicks? unit.perSecond ticks = some t) :
    t.toTicks unit.perSecond = ticks := by
  have htime := timestamp_ofTicks? h
  have hpos : (0 : Int) < unit.perSecond := by exact_mod_cast unit.perSecond_pos
  rw [toTicks, htime]
  simp only [ofTicks?, Option.ite_none_right_eq_some, Option.some.injEq] at h
  obtain ⟨-, rfl⟩ := h
  rw [Int.fdiv_eq_ediv_of_nonneg _ hpos.le]
  cases unit <;> simp only [TimeUnit.perSecond] <;> norm_num <;> omega

/-- Moving a date and time keeps its nanoseconds. -/
theorem shift?_eq_some (h : t.shift? seconds = some t') :
    t'.timestamp = t.timestamp + seconds ∧ t'.nanos = t.nanos := by
  simp only [shift?, Option.ite_none_right_eq_some, Option.some.injEq] at h
  obtain ⟨-, rfl⟩ := h
  refine ⟨?_, rfl⟩
  rw [timestamp, Int.fdiv_eq_ediv_of_nonneg _ (by decide)]
  dsimp only [secondsPerDay]
  omega

/-- A later time has as many ticks more as there are in the seconds between. -/
theorem toTicks_shift? (perSecond : Nat) (h : t.shift? seconds = some t') :
    t'.toTicks perSecond = t.toTicks perSecond + seconds * perSecond := by
  obtain ⟨htime, hnanos⟩ := shift?_eq_some h
  rw [toTicks, toTicks, htime, hnanos]
  ring

end DateTime

/-- The seconds that a timestamp's own zone is ahead. -/
def zoneOffset (zone : Option String) : Int := (zone.bind offset?).getD 0

/-- The day of a timestamp in its own zone, which is a date. -/
theorem days_zonedTime? {unit : TimeUnit} {zone : Option String} {ticks : Int} {t : DateTime}
    (h : zonedTime? unit zone ticks = some t) :
    t.days = (ticks.fdiv unit.perSecond + zoneOffset zone).fdiv secondsPerDay ∧
      dateInRange t.days = true := by
  cases zone with
  | none =>
    simp only [zonedTime?, DateTime.ofTicks?, Option.ite_none_right_eq_some, Option.some.injEq] at h
    obtain ⟨hrange, rfl⟩ := h
    exact ⟨by rw [zoneOffset]; simp, hrange⟩
  | some zone =>
    obtain ⟨offset, hoffset, h⟩ := Option.bind_eq_some_iff.1 h
    obtain ⟨t', ht', h⟩ := Option.bind_eq_some_iff.1 h
    have htime := DateTime.timestamp_ofTicks? ht'
    simp only [DateTime.shift?, Option.ite_none_right_eq_some, Option.some.injEq] at h
    obtain ⟨hrange, rfl⟩ := h
    refine ⟨?_, hrange⟩
    rw [zoneOffset, Option.bind_some, hoffset, Option.getD_some, ← htime]

end Calendar

namespace Conversion

open Calendar

variable {unit : TimeUnit} {zone : String} {offset : Int} {ticks : FixedInt .int64}

/-- The day of a number of ticks. -/
def dayOf (unit : TimeUnit) (ticks : Int) : Int := (ticks.fdiv unit.perSecond).fdiv secondsPerDay

/-- The ticks that name dates. -/
theorem dateInRange_dayOf_iff {ticks : Int} : dateInRange (dayOf unit ticks) = true ↔
    -8334601228800 * (unit.perSecond : Int) ≤ ticks ∧
      ticks < 8210266876800 * (unit.perSecond : Int) := by
  rw [dateInRange_iff, dayOf, Int.fdiv_eq_ediv_of_nonneg _ (Int.natCast_nonneg _),
    Int.fdiv_eq_ediv_of_nonneg _ (by decide)]
  dsimp only [secondsPerDay]
  cases unit <;> simp only [TimeUnit.perSecond] <;> omega

/-- What is no zone has no local times. -/
theorem asLocal?_of_no_offset (hzone : offset? zone = none) : asLocal? unit zone ticks = none := by
  rw [asLocal?, hzone]
  rfl

/-- **Local ticks are the ticks moved by the offset**, between dates of the calendar. -/
theorem asLocal?_eq (hzone : offset? zone = some offset) : asLocal? unit zone ticks =
    if dateInRange (dayOf unit ticks.toInt) ∧
      dateInRange (dayOf unit (ticks.toInt - offset * unit.perSecond)) then
      ticks? (ticks.toInt - offset * unit.perSecond)
    else none := by
  have hpos : (0 : Int) < unit.perSecond := by exact_mod_cast unit.perSecond_pos
  -- Moving by whole seconds moves the count of seconds by as many.
  have hmoved : (ticks.toInt - offset * unit.perSecond).fdiv unit.perSecond =
      ticks.toInt.fdiv unit.perSecond - offset := by
    rw [Int.fdiv_eq_ediv_of_nonneg _ hpos.le, Int.fdiv_eq_ediv_of_nonneg _ hpos.le,
      sub_eq_add_neg, ← neg_mul, Int.add_mul_ediv_right _ _ hpos.ne']
    rfl
  -- Both the time and the moved time have to be in the calendar, and each can fail on its own.
  rw [asLocal?, hzone, Option.bind_eq_bind, Option.bind_some]
  cases ht : DateTime.ofTicks? unit.perSecond ticks.toInt with
  | none =>
    rw [if_neg fun h ↦ DateTime.ofTicks?_eq_none_iff.1 ht h.1]
    rfl
  | some t =>
    have hday : (t.timestamp + -offset).fdiv secondsPerDay =
        dayOf unit (ticks.toInt - offset * unit.perSecond) := by
      rw [dayOf, hmoved, DateTime.timestamp_ofTicks? ht, sub_eq_add_neg]
    rw [Option.bind_eq_bind, Option.bind_some]
    cases ht' : t.shift? (-offset) with
    | none =>
      rw [if_neg fun h ↦ DateTime.shift?_eq_none_iff.1 ht' (hday ▸ h.2)]
      rfl
    | some t' =>
      have hrange : dateInRange (dayOf unit ticks.toInt) = true := by
        by_contra hne
        rw [DateTime.ofTicks?_eq_none_iff.2 hne] at ht
        cases ht
      have hrange' : dateInRange (dayOf unit (ticks.toInt - offset * unit.perSecond)) = true := by
        by_contra hne
        rw [DateTime.shift?_eq_none_iff.2 (hday ▸ hne)] at ht'
        cases ht'
      have hticks := DateTime.toTicks_shift? unit.perSecond ht'
      rw [DateTime.toTicks_ofTicks? ht, neg_mul, ← sub_eq_add_neg] at hticks
      rw [if_pos ⟨hrange, hrange'⟩, Option.bind_some, ticksOf?, hticks]
      rfl

end Conversion

end Tabular
