import Tabular.Calendar.Reader
import Tabular.Proofs.Calendar.Dates

/-!
# Times that texts name

Items of a format are read one after the other, and each sets fields within their ranges. So the
fields of the time of day are in the ranges that they have in a day (`Fields.InDay`), however many
items are read, and a date and time that is read from a text is a date of the calendar and a time of
the day (`DateTime.IsValid`).

The invariant is kept by each of the ways to set a field, and so by each item
(`Fields.InDay.readItem?`); a whole text keeps it by induction along the format
(`Fields.inDay_read?`). That a field which is read twice must agree is not used: agreeing with what
was there before only makes fewer texts readable.

A second may be the leap second, which is held as a 59th second with the nanoseconds of two. A
timestamp among the items brings a date and a time of its own, and these are in range because they
were made from ticks.
-/

namespace Tabular.Calendar

/-- A time made from ticks is a time of the day. -/
theorem DateTime.seconds_lt_of_ofTicks? {perSecond : Nat} {ticks : Int} {t : DateTime}
    (h : ofTicks? perSecond ticks = some t) : t.seconds < 86400 := by
  simp only [ofTicks?, Option.ite_none_right_eq_some, Option.some.injEq] at h
  obtain ⟨-, rfl⟩ := h
  rw [Int.fdiv_eq_ediv_of_nonneg (ticks.fdiv perSecond) (by decide)]
  dsimp only [secondsPerDay]
  omega

theorem DateTime.seconds_lt_of_shift? {seconds : Int} {t t' : DateTime}
    (h : t.shift? seconds = some t') : t'.seconds < 86400 := by
  simp only [shift?, Option.ite_none_right_eq_some, Option.some.injEq] at h
  obtain ⟨-, rfl⟩ := h
  rw [Int.fdiv_eq_ediv_of_nonneg _ (by decide)]
  dsimp only [secondsPerDay]
  omega

/-- A field that agrees with a value holds it afterwards. -/
theorem agree?_eq_some {α : Type} [DecidableEq α] {old new : Option α} {v : α}
    (h : agree? old v = some new) : new = some v := by
  unfold agree? at h
  split at h
  · injection h with h
    exact h.symm
  · split at h
    · injection h with h
      exact h.symm
    · cases h

/-- A field that agrees with a value in range is in range. -/
theorem le_of_agree? {old new : Option Nat} {n bound : Nat} (h : agree? old n = some new)
    (hn : n ≤ bound) : ∀ v ∈ new, v ≤ bound := by
  rw [agree?_eq_some h]
  rintro _ ⟨⟩
  exact hn

/-- A field in range is so too where nought stands for a missing one. -/
theorem getD_le {o : Option Nat} {bound : Nat} (h : ∀ v ∈ o, v ≤ bound) : o.getD 0 ≤ bound := by
  cases o with
  | none => exact Nat.zero_le bound
  | some v => exact h v rfl

/-- A number that was found within bounds is within the upper one. -/
theorem le_of_within? {low high v : Int} {n : Nat}
    (h : (within? low high v).map Int.toNat = some n) : n ≤ high.toNat := by
  obtain ⟨i, hi, rfl⟩ := Option.map_eq_some_iff.1 h
  simp only [within?, Option.ite_none_right_eq_some, Option.some.injEq] at hi
  omega

namespace Fields

/-- The fields of the time of day are in the ranges that they have in a day, which may end with a
leap second. -/
structure InDay (f : Fields) : Prop where
  half : ∀ v ∈ f.hourDiv12, v ≤ 1
  hour : ∀ v ∈ f.hourMod12, v ≤ 11
  minute : ∀ v ∈ f.minute, v ≤ 59
  second : ∀ v ∈ f.second, v ≤ 60
  nanosecond : ∀ v ∈ f.nanosecond, v ≤ 999999999

variable {f f' : Fields}

/-- No field is out of range where none is set. -/
theorem InDay.empty : InDay {} where
  half := nofun
  hour := nofun
  minute := nofun
  second := nofun
  nanosecond := nofun

/-- An hour of the day is set in its half and its number in the half. -/
theorem InDay.setHour? {n : Nat} (h : f.InDay) (hn : n ≤ 23) (hset : f.setHour? n = some f') :
    f'.InDay := by
  simp only [Fields.setHour?, Option.bind_eq_bind, Option.bind_eq_some_iff, Option.some.injEq]
    at hset
  obtain ⟨_, hhalf, _, hhour, rfl⟩ := hset
  exact { h with
    half := le_of_agree? hhalf (by omega)
    hour := le_of_agree? hhour (by omega) }

/-- A numeric field is set within its range. The other fields are not among those of the time of
day. -/
theorem InDay.set? {field : Field} {v : Int} (h : f.InDay) (hset : f.set? field v = some f') :
    f'.InDay := by
  cases field <;>
    simp only [Fields.set?, Option.bind_eq_bind, Option.bind_eq_some_iff, Option.some.injEq] at hset
  case yearDiv100 | yearMod100 | isoYearMod100 | timestamp =>
    obtain ⟨_, -, rfl⟩ := hset
    exact { h with }
  case hour =>
    obtain ⟨n, hn, hset⟩ := hset
    exact h.setHour? (le_of_within? hn) hset
  case hour12 =>
    obtain ⟨n, -, _, hagree, rfl⟩ := hset
    exact { h with hour := le_of_agree? hagree (by omega) }
  case minute =>
    obtain ⟨n, hn, _, hagree, rfl⟩ := hset
    exact { h with minute := le_of_agree? hagree (le_of_within? hn) }
  case second =>
    obtain ⟨n, hn, _, hagree, rfl⟩ := hset
    exact { h with second := le_of_agree? hagree (le_of_within? hn) }
  case nanosecond =>
    obtain ⟨n, hn, _, hagree, rfl⟩ := hset
    exact { h with nanosecond := le_of_agree? hagree (le_of_within? hn) }
  all_goals
    -- the other fields are no part of the time of day
    obtain ⟨_, -, _, -, rfl⟩ := hset
    exact { h with }

/-- Weekdays are no part of the time of day. -/
theorem InDay.setWeekday? {day : Nat} (h : f.InDay) (hset : f.setWeekday? day = some f') :
    f'.InDay := by
  obtain ⟨_, -, hset⟩ := Option.bind_eq_some_iff.1 hset
  cases hset
  exact { h with }

/-- Offsets are no part of the time of day. -/
theorem InDay.setOffset? {seconds : Int} (h : f.InDay) (hset : f.setOffset? seconds = some f') :
    f'.InDay := by
  obtain ⟨_, -, hset⟩ := Option.bind_eq_some_iff.1 hset
  cases hset
  exact { h with }

/-- The half of the day is one of two. -/
theorem InDay.setHalf? {half : Nat} (h : f.InDay) (hhalf : half ≤ 1)
    (hset : f.setHalf? half = some f') : f'.InDay := by
  obtain ⟨_, hagree, hset⟩ := Option.bind_eq_some_iff.1 hset
  cases hset
  exact { h with half := le_of_agree? hagree hhalf }

end Fields

open Fields

variable {f f' : Fields} {cs rest : List Char}

/-- A field that is read from digits is set like any other. -/
theorem Fields.InDay.readField? {field : Field} (h : f.InDay)
    (hread : Calendar.readField? field f cs = some (f', rest)) : f'.InDay := by
  simp only [Calendar.readField?, Option.bind_eq_bind] at hread
  split at hread
  all_goals
    obtain ⟨_, -, hread⟩ := Option.bind_eq_some_iff.1 hread
    obtain ⟨_, hset, hread⟩ := Option.bind_eq_some_iff.1 hread
    cases hread
    exact h.set? hset

/-- An item keeps the time of day in its ranges. -/
theorem Fields.InDay.readSimple? {item : Item} (h : f.InDay)
    (hread : Calendar.readSimple? item f cs = some (f', rest)) : f'.InDay := by
  -- An item sets at most one field, and every setter keeps the invariant.
  cases item <;> simp only [Calendar.readSimple?, Option.bind_eq_bind, Option.bind_eq_some_iff,
    Option.some.injEq] at hread
  case literal =>
    split at hread <;> cases hread
    exact h
  case space | zoneName =>
    cases hread
    exact h
  case number => exact h.readField? hread
  case shortMonth | longMonth | fractionDigits =>
    obtain ⟨_, -, _, hset, hread⟩ := hread
    cases hread
    exact h.set? hset
  case shortWeekday | longWeekday =>
    obtain ⟨_, -, _, hset, hread⟩ := hread
    cases hread
    exact h.setWeekday? hset
  case amPm =>
    split at hread
    · obtain ⟨_, hset, hread⟩ := Option.bind_eq_some_iff.1 hread
      cases hread
      exact h.setHalf? (by decide) hset
    · obtain ⟨_, hset, hread⟩ := Option.bind_eq_some_iff.1 hread
      cases hread
      exact h.setHalf? (by decide) hset
    · cases hread
  case fraction | fractionOf =>
    split at hread
    · obtain ⟨_, -, hread⟩ := Option.bind_eq_some_iff.1 hread
      obtain ⟨_, hset, hread⟩ := Option.bind_eq_some_iff.1 hread
      cases hread
      exact h.set? hset
    · cases hread
      exact h
  case zoneOffset =>
    obtain ⟨_, -, _, hset, hread⟩ := hread
    cases hread
    exact h.setOffset? hset
  case internet => cases hread

/-- What every item keeps, a list of items does. -/
theorem Fields.InDay.foldlM (step : Item → Fields → List Char → Option (Fields × List Char))
    (hstep : ∀ {item f cs f' rest}, f.InDay → step item f cs = some (f', rest) → f'.InDay)
    {items : List Item} (h : f.InDay)
    (hread : items.foldlM (fun (f, cs) item ↦ step item f cs) (f, cs) = some (f', rest)) :
    f'.InDay := by
  induction items generalizing f cs with
  | nil =>
    cases hread
    exact h
  | cons item items ih =>
    obtain ⟨⟨f₁, cs₁⟩, hitem, hread⟩ := Option.bind_eq_some_iff.1 hread
    exact ih (hstep h hitem) hread

/-- Items that belong together, such as those of a time, are read one after the other. -/
theorem Fields.InDay.readSimples? {items : List Item} (h : f.InDay)
    (hread : Calendar.readSimples? items f cs = some (f', rest)) : f'.InDay :=
  h.foldlM Calendar.readSimple? InDay.readSimple? hread

/-- All items but one are simple: it is a date and time as in messages, which may have an offset by
name. -/
theorem readItem?_of_ne {item : Item} (h : item ≠ .internet) :
    readItem? item f cs = readSimple? item f cs := by
  cases item <;> first | rfl | exact absurd rfl h

/-- **What one item keeps**: the ranges of the time of day. -/
theorem Fields.InDay.readItem? {item : Item} (h : f.InDay)
    (hread : Calendar.readItem? item f cs = some (f', rest)) : f'.InDay := by
  by_cases hitem : item = .internet
  · subst hitem
    simp only [Calendar.readItem?, Option.bind_eq_bind, Option.bind_eq_some_iff] at hread
    obtain ⟨⟨f₁, cs₁⟩, hdate, hread⟩ := hread
    split at hread
    · split at hread
      · obtain ⟨cs₂, -, hread⟩ := Option.bind_eq_some_iff.1 hread
        obtain ⟨⟨f₂, cs₃⟩, htime, hread⟩ := Option.bind_eq_some_iff.1 hread
        have h₂ : f₂.InDay := (h.readSimples? hdate).readSimples? htime
        split at hread
        · obtain ⟨_, hset, hread⟩ := Option.bind_eq_some_iff.1 hread
          cases hread
          exact h₂.setOffset? hset
        · obtain ⟨_, -, hread⟩ := Option.bind_eq_some_iff.1 hread
          obtain ⟨_, hset, hread⟩ := Option.bind_eq_some_iff.1 hread
          cases hread
          exact h₂.setOffset? hset
      · cases hread
    · cases hread
  · rw [readItem?_of_ne hitem] at hread
    exact h.readSimple? hread

/-- **What is read from a text** has the time of day in its ranges. -/
theorem Fields.inDay_read? {items : List Item} {s : String}
    (hread : Fields.read? items s = some f) :
    f.InDay := by
  unfold Fields.read? at hread
  split at hread
  · next hfold =>
    cases hread
    exact InDay.empty.foldlM Calendar.readItem? InDay.readItem? hfold
  · cases hread

namespace Fields

/-- A second that is not the leap second is one of the sixty. -/
theorem InDay.second_of_ne (h : f.InDay) (hleap : f.second ≠ some 60) : ∀ v ∈ f.second, v ≤ 59 := by
  intro v hv
  have hv60 : v ≠ 60 := fun h60 ↦ hleap (h60 ▸ hv)
  have := h.second v hv
  omega

/-- The fields name times of the day; a leap second is a second longer than the others. -/
theorem InDay.resolveTime {seconds nanos : Nat} (h : f.InDay)
    (htime : f.resolveTime = .ok (seconds, nanos)) : seconds < 86400 ∧ nanos < 2000000000 := by
  unfold Fields.resolveTime at htime
  split at htime
  · next half hour minute hhalf hhour hminute =>
    have hhalf := h.half _ hhalf
    have hhour := h.hour _ hhour
    have hminute := h.minute _ hminute
    have hnano : f.nanosecond.getD 0 ≤ 999999999 := getD_le h.nanosecond
    split at htime
    -- Second 60 is kept as second 59 with a full second of nanoseconds, hence the larger bound.
    next second leap hpair =>
    have hsecond : second ≤ 59 ∧ leap ≤ 1000000000 := by
      split at hpair
      · cases hpair
        decide
      · next hleap =>
        cases hpair
        exact ⟨getD_le (h.second_of_ne hleap), by omega⟩
    split at htime
    · cases htime
    · injection htime with htime
      injection htime with hseconds hnanos
      omega
  · cases htime

/-- The fields with the year, the day of the year and the time that a date and time has. -/
def withTime? (f : Fields) (t : DateTime) (second : Option Nat) : Option Fields := do
  let year ← agree? f.year (civilOfDays t.days).year
  let ordinal ← agree? f.ordinal (yearDay t.days)
  let hourDiv12 ← agree? f.hourDiv12 (t.hour / 12)
  let hourMod12 ← agree? f.hourMod12 (t.hour % 12)
  let minute ← agree? f.minute t.minute
  some { f with second, year, ordinal, hourDiv12, hourMod12, minute }

/-- What a timestamp adds, in steps: its own date and time, moved back from a full minute if the
text has a leap second, then the second, then the other fields. -/
theorem fillFrom?_eq_bind (f : Fields) (timestamp : Int) : f.fillFrom? timestamp =
    (DateTime.ofTicks? 1 timestamp).bind fun t ↦
      (if f.second = some 60 then
        if t.second = 59 then some t else if t.second = 0 then t.shift? (-1) else none
      else some t).bind fun t ↦
        (if f.second = some 60 then some f.second else agree? f.second t.second).bind fun second ↦
          f.withTime? t second := by
  unfold fillFrom?
  cases DateTime.ofTicks? 1 timestamp with
  | none => rfl
  | some t =>
    simp only [Option.bind_eq_bind, Option.bind_some]
    -- A leap second agrees with second 59, or with the one that comes after it.
    by_cases hleap : f.second = some 60
    · simp only [if_pos hleap]
      by_cases hlast : t.second = 59
      · simp only [if_pos hlast]
        rfl
      · by_cases hfirst : t.second = 0
        · simp only [if_neg hlast, if_pos hfirst]
          rfl
        · simp only [if_neg hlast, if_neg hfirst]
          rfl
    · simp only [if_neg hleap]
      rfl

/-- A time of the day fills the fields within their ranges. -/
theorem InDay.withTime? {t : DateTime} {second : Option Nat} (h : f.InDay) (ht : t.seconds < 86400)
    (hsecond : ∀ v ∈ second, v ≤ 60) (hfill : f.withTime? t second = some f') : f'.InDay := by
  simp only [Fields.withTime?, Option.bind_eq_bind, Option.bind_eq_some_iff, Option.some.injEq]
    at hfill
  obtain ⟨_, -, _, -, _, hhalf, _, hhour, _, hminute, rfl⟩ := hfill
  exact {
    half := le_of_agree? hhalf (by unfold DateTime.hour; omega)
    hour := le_of_agree? hhour (by omega)
    minute := le_of_agree? hminute (by unfold DateTime.minute; omega)
    second := hsecond
    nanosecond := h.nanosecond }

/-- What a timestamp adds are times of the day. -/
theorem InDay.fillFrom? {timestamp : Int} (h : f.InDay) (hfill : f.fillFrom? timestamp = some f') :
    f'.InDay := by
  rw [fillFrom?_eq_bind] at hfill
  obtain ⟨t, ht, hfill⟩ := Option.bind_eq_some_iff.1 hfill
  obtain ⟨t', ht', hfill⟩ := Option.bind_eq_some_iff.1 hfill
  obtain ⟨second, hsecond, hfill⟩ := Option.bind_eq_some_iff.1 hfill
  have hday : t'.seconds < 86400 := by
    split_ifs at ht'
    · cases ht'
      exact DateTime.seconds_lt_of_ofTicks? ht
    · exact DateTime.seconds_lt_of_shift? ht'
    · cases ht'
      exact DateTime.seconds_lt_of_ofTicks? ht
  refine h.withTime? hday ?_ hfill
  split_ifs at hsecond
  · cases hsecond
    exact h.second
  · exact le_of_agree? hsecond (by unfold DateTime.second; omega)

end Fields

/-- A date of the calendar, a time of the day, and less nanoseconds than two seconds have: a leap
second is held as more than a second's. -/
structure DateTime.IsValid (t : DateTime) : Prop where
  date : dateInRange t.days = true
  seconds : t.seconds < 86400
  nanos : t.nanos < 2000000000

/-- Fields in their ranges that name a date and time name a valid one. -/
theorem Fields.InDay.isValid {t : DateTime} (h : f.InDay) (ht : f.resolveDateTime? = some t) :
    t.IsValid := by
  have hresolved {f : Fields} (h : f.InDay) {days : Int} {seconds nanos : Nat}
      (hdate : f.resolveDate = .ok days) (htime : f.resolveTime = .ok (seconds, nanos)) :
      (⟨days, seconds, nanos⟩ : DateTime).IsValid :=
    ⟨dateInRange_resolveDate hdate, (h.resolveTime htime).1, (h.resolveTime htime).2⟩
  unfold resolveDateTime? at ht
  split at ht
  · next days seconds nanos hdate htime =>
    have hvalid := hresolved h hdate htime
    dsimp only at ht
    split at ht
    · cases ht
      exact hvalid
    · split at ht <;> cases ht
      exact hvalid
  -- Otherwise the time is given by a timestamp, which fills the fields that were not read.
  · split at ht
    · cases ht
    · cases ht
    · cases ht
    · cases ht
    · cases ht
    · obtain ⟨f', hfill, ht⟩ := Option.bind_eq_some_iff.1 ht
      split at ht
      · next hdate htime =>
        cases ht
        exact hresolved (h.fillFrom? hfill) hdate htime
      · cases ht

/-- The date and time that a text names. -/
theorem parse?_isValid {format s : String} {t : DateTime} (h : parse? format s = some t) :
    t.IsValid := by
  simp only [parse?, Option.bind_eq_bind, Option.bind_eq_some_iff] at h
  obtain ⟨items, -, f, hread, h⟩ := h
  rcases (Option.orElse_eq_some _ _ _).1 h with htime | ⟨-, hmidnight⟩
  · exact (inDay_read? hread).isValid htime
  · split at hmidnight
    · next days hdate =>
      cases hmidnight
      exact ⟨dateInRange_resolveDate hdate, Nat.zero_lt_succ _, Nat.zero_lt_succ _⟩
    · cases hmidnight

end Tabular.Calendar
