import Tabular.Calendar.Fields
import Tabular.Proofs.Calendar.Zone
import Tabular.Proofs.Outcome

/-!
# Dates of the calendar

Fields of a date name one by year, month and day, by the day of the year, by the day of a week of
the year, or by the day of a week that belongs to the year of its Thursday. Each of these ways gives
a date of the calendar (`Calendar.Fields.dateInRange_resolveDate`).

That rests on the first and the last year of the calendar being whole years. The days of a year lie
between the day that it begins with and the day that the next one begins with
(`Calendar.daysOfCivil_last`), and the range of the calendar is that of its years
(`Calendar.dateInRange_daysOfCivil`). Only weeks lead out of their year, and they are checked
against the range once more.
-/

namespace Tabular.Calendar

variable {year days : Int} {month day ordinal week weekday' first : Nat}

/-- The years of the calendar. -/
theorem yearInRange_iff : yearInRange year = true ↔ -262143 ≤ year ∧ year ≤ 262142 := by
  rw [yearInRange, Bool.and_eq_true, decide_eq_true_eq, decide_eq_true_eq, minYear, maxYear]

/-- No month is longer than 31 days. -/
theorem monthLength_le (year : Int) (month : Nat) : monthLength year month ≤ 31 := by
  unfold monthLength
  split <;> first | decide | (split <;> decide)

/-- Division toward negative infinity by a natural number is the division that omega knows. -/
theorem fdiv_natCast (n : Int) (d : Nat) : n.fdiv d = n / d :=
  Int.fdiv_eq_ediv_of_nonneg n (Int.natCast_nonneg d)

/-- The day count with the division that is known to the decision procedures. -/
theorem daysOfCivil_eq (year : Int) (month day : Nat) : daysOfCivil ⟨year, month, day⟩ =
    (let y := if month ≤ 2 then year - 1 else year
     let m : Int := if month ≤ 2 then month + 9 else month - 3
     y * 365 + y / 4 - y / 100 + y / 400 + (153 * m + 2) / 5 + day - 719469) := by
  have h400 (n : Int) : n.fdiv 400 = n / 400 := fdiv_natCast n 400
  have h100 (n : Int) : n.fdiv 100 = n / 100 := fdiv_natCast n 100
  have h5 (n : Int) : n.fdiv 5 = n / 5 := fdiv_natCast n 5
  have h4 (n : Int) : n.fdiv 4 = n / 4 := fdiv_natCast n 4
  rw [daysOfCivil]
  simp only [h400, h100, h5, h4]
  split <;> omega

/-- The days of a year of the calendar are dates. -/
theorem dateInRange_daysOfCivil (hyear : yearInRange year = true) (hmonth : 1 ≤ month)
    (hmonth' : month ≤ 12) (hday : 1 ≤ day) (hday' : day ≤ 31) :
    dateInRange (daysOfCivil ⟨year, month, day⟩) = true := by
  obtain ⟨hmin, hmax⟩ := yearInRange_iff.1 hyear
  rw [dateInRange_iff, daysOfCivil_eq]
  dsimp only
  -- the first and the last year end where the calendar does
  rcases eq_or_ne year (-262143) with rfl | hlow
  · split <;> omega
  · rcases eq_or_ne year 262142 with rfl | hhigh
    · split <;> omega
    · split <;> omega

/-- A year ends as many days after its first as it is long. -/
theorem daysOfCivil_last (year : Int) : daysOfCivil ⟨year, 12, 31⟩ =
    daysOfCivil ⟨year, 1, 1⟩ + (if isLeapYear year then 366 else 365 : Nat) - 1 := by
  rw [daysOfCivil_eq, daysOfCivil_eq]
  simp only [isLeapYear, Bool.and_eq_true, Bool.or_eq_true, decide_eq_true_eq]
  norm_num
  split <;> omega

/-- Year, month and day name a date. -/
theorem dateInRange_daysOfYmd? (h : daysOfYmd? year month day = some days) :
    dateInRange days = true := by
  simp only [daysOfYmd?, Option.ite_none_right_eq_some, Bool.and_eq_true, decide_eq_true_eq,
    Option.some.injEq] at h
  obtain ⟨⟨⟨⟨⟨hyear, hmonth⟩, hmonth'⟩, hday⟩, hday'⟩, rfl⟩ := h
  exact dateInRange_daysOfCivil hyear hmonth hmonth' hday
    (Nat.le_trans hday' (monthLength_le year month))

/-- A year and a day of the year name a date: it lies between the first and the last of the year. -/
theorem dateInRange_daysOfYearDay? (h : daysOfYearDay? year ordinal = some days) :
    dateInRange days = true := by
  simp only [daysOfYearDay?, Option.ite_none_right_eq_some, Bool.and_eq_true, decide_eq_true_eq,
    Option.some.injEq] at h
  obtain ⟨⟨⟨hyear, hfirst⟩, hlast⟩, rfl⟩ := h
  have hstart : dateInRange (daysOfCivil ⟨year, 1, 1⟩) = true :=
    dateInRange_daysOfCivil hyear (by decide) (by decide) (by decide) (by decide)
  have hend : dateInRange (daysOfCivil ⟨year, 12, 31⟩) = true :=
    dateInRange_daysOfCivil hyear (by decide) (by decide) (by decide) (by decide)
  rw [daysOfCivil_last] at hend
  rw [dateInRange_iff] at *
  omega

/-- A year of weeks, a week and a day of the week name a date. A week may lead out of its year, so
this way checks what it has found. -/
theorem dateInRange_daysOfIsoWeek? (h : daysOfIsoWeek? year week weekday' = some days) :
    dateInRange days = true := by
  simp only [daysOfIsoWeek?, Option.ite_none_right_eq_some, Bool.and_eq_true,
    Option.some.injEq] at h
  obtain ⟨⟨-, hdate⟩, rfl⟩ := h
  exact hdate

namespace Fields

/-- A year, a week counted from its first Sunday or Monday, and a day of the week name a date, by
way of the day of the year. -/
theorem dateInRange_resolveWeek (h : resolveWeek year week weekday' first = .ok days) :
    dateInRange days = true := by
  unfold resolveWeek at h
  split at h
  · cases h
  · split at h
    · cases h
    · dsimp only at h
      split at h
      · cases h
      · split at h
        · cases h
        · next hdays =>
          injection h with h
          exact h ▸ dateInRange_daysOfYearDay? hdays

/-- A date that passes further checks is a date. -/
theorem dateInRange_verified {x : Except Unresolved Int} {ok : Int → Bool}
    (hx : ∀ d, x = .ok d → dateInRange d = true)
    (h : (x >>= fun d ↦ if ok d then .ok d else .error .impossible) = .ok days) :
    dateInRange days = true := by
  obtain ⟨d, hd, h⟩ := Except.bind_eq_ok.1 h
  split at h
  · injection h with h
    exact h ▸ hx d hd
  · cases h

/-- A check that goes on with what was found and fails otherwise has found something if it succeeds.
-/
theorem eq_some_of_found {o : Option Int}
    (h : (match o with
      | some d => .ok d
      | none => .error .outOfRange : Except Unresolved Int) = .ok days) : o = some days := by
  cases o with
  | none => cases h
  | some d =>
    injection h with h
    rw [h]

/-- **The fields name dates of the calendar.** -/
theorem dateInRange_resolveDate {f : Fields} (h : f.resolveDate = .ok days) :
    dateInRange days = true := by
  unfold resolveDate at h
  obtain ⟨year, -, h⟩ := Except.bind_eq_ok.1 h
  obtain ⟨isoYear, -, h⟩ := Except.bind_eq_ok.1 h
  dsimp only at h
  split at h
  · split at h
    · exact dateInRange_verified (fun _ hd ↦ dateInRange_daysOfYmd? (eq_some_of_found hd)) h
    · exact dateInRange_verified (fun _ hd ↦ dateInRange_daysOfYearDay? (eq_some_of_found hd)) h
    · exact dateInRange_verified (fun _ hd ↦ dateInRange_resolveWeek hd) h
    · exact dateInRange_verified (fun _ hd ↦ dateInRange_resolveWeek hd) h
    · exact dateInRange_verified (fun _ hd ↦ dateInRange_daysOfIsoWeek? (eq_some_of_found hd)) h
    · cases h
  · split at h
    · exact dateInRange_verified (fun _ hd ↦ dateInRange_daysOfIsoWeek? (eq_some_of_found hd)) h
    · cases h
  · cases h

end Fields

end Tabular.Calendar
