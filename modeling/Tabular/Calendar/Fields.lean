import Tabular.Calendar.Date
import Tabular.Power

/-!
# Fields of a date and their resolution

A date text fills in `Fields`. A field that is read twice must agree with itself, and
`Fields.resolveDate` and `Fields.resolveDateTime?` find the one date and time that the fields name,
checking every field that was not needed.

When fields fall short, a timestamp can supply the rest, but not if they already contradict each
other; that is why the reasons for failure are told apart.
-/

namespace Tabular.Calendar

/-- Why fields name no date or time. -/
inductive Unresolved where
  | outOfRange
  | impossible
  | notEnough
deriving DecidableEq, Repr

/-- What has been read of a date and time. -/
structure Fields where
  year : Option Int := none
  yearDiv100 : Option Int := none
  yearMod100 : Option Int := none
  isoYear : Option Int := none
  isoYearMod100 : Option Int := none
  quarter : Option Nat := none
  month : Option Nat := none
  day : Option Nat := none
  weekFromSunday : Option Nat := none
  weekFromMonday : Option Nat := none
  isoWeek : Option Nat := none
  /-- Counted from Monday as 0. -/
  weekday : Option Nat := none
  ordinal : Option Nat := none
  /-- The half of the day. -/
  hourDiv12 : Option Nat := none
  hourMod12 : Option Nat := none
  minute : Option Nat := none
  second : Option Nat := none
  nanosecond : Option Nat := none
  timestamp : Option Int := none
  offset : Option Int := none
deriving DecidableEq, Repr

/-- The value to keep when a field is read again: it must be the same. -/
def agree? {α : Type} [DecidableEq α] (old : Option α) (new : α) : Option (Option α) :=
  match old with
  | none => some (some new)
  | some v => if v = new then some (some new) else none

/-- Whether a field, if given, has the value. -/
def allows {α : Type} [DecidableEq α] (field : Option α) (value : α) : Bool :=
  field.all (· = value)

namespace Fields

/-- The year named by a full year, its hundreds and its last two digits. Two digits alone mean a
year from 1970 to 2069. -/
def resolveYear (full div mod : Option Int) : Except Unresolved (Option Int) :=
  match full, div, mod with
  | y, none, none => .ok y
  | some y, q, r =>
    if y < 0 then .error .impossible
    else if allows q (y / 100) && allows r (y % 100) then .ok (some y)
    else .error .impossible
  | none, some q, some r =>
    if q < 0 then .error .impossible
    else if (twoTo 31 : Int) ≤ q * 100 + r then .error .outOfRange
    else .ok (some (q * 100 + r))
  | none, none, some r => .ok (some (r + if r < 70 then 2000 else 1900))
  | none, some _, none => .error .notEnough

/-- Whether hundreds and last digits agree with a year; a negative year has neither. -/
def allowsParts (div mod : Option Int) (year : Int) : Bool :=
  if 0 ≤ year then allows div (year / 100) && allows mod (year % 100)
  else div.isNone && mod.isNone

/-- Whether year, month and day agree with a date. -/
def allowsCivil (f : Fields) (days : Int) : Bool :=
  let c := civilOfDays days
  allows f.year c.year && allowsParts f.yearDiv100 f.yearMod100 c.year && allows f.month c.month &&
    allows f.day c.day

/-- Whether week and weekday agree with a date. -/
def allowsIsoWeek (f : Fields) (days : Int) : Bool :=
  let (year, week) := Calendar.isoWeek days
  allows f.isoYear year && allowsParts none f.isoYearMod100 year && allows f.isoWeek week &&
    allows f.weekday (Calendar.weekday days)

/-- Whether the day and weeks of the year agree with a date. -/
def allowsYearDay (f : Fields) (days : Int) : Bool :=
  allows f.ordinal (yearDay days) && allows f.weekFromSunday (weekOfYear 6 days) &&
    allows f.weekFromMonday (weekOfYear 0 days)

/-- Whether the quarter agrees with a date. -/
def allowsQuarter (f : Fields) (days : Int) : Bool :=
  allows f.quarter (((civilOfDays days).month - 1) / 3 + 1)

/-- The day in a week of a year, when weeks start on `first`. -/
def resolveWeek (year : Int) (week weekday' first : Nat) : Except Unresolved Int :=
  match daysOfYearDay? year 1 with
  | none => .error .outOfRange
  | some newYear =>
    if 53 < week then .error .outOfRange
    else
      let weekStart : Int := 1 + ((first + 7 - Calendar.weekday newYear) % 7 : Nat)
      let ordinal := weekStart + ((week : Int) - 1) * 7 + ((weekday' + 7 - first) % 7 : Nat)
      if ordinal ≤ 0 then .error .impossible
      else
        match daysOfYearDay? year ordinal.toNat with
        | none => .error .impossible
        | some days => .ok days

/-- The date that the fields name. -/
def resolveDate (f : Fields) : Except Unresolved Int := do
  let year ← resolveYear f.year f.yearDiv100 f.yearMod100
  let isoYear ← resolveYear f.isoYear none f.isoYearMod100
  let found (days : Option Int) : Except Unresolved Int :=
    match days with
    | some d => .ok d
    | none => .error .outOfRange
  let verified (ok : Bool) (days : Int) : Except Unresolved Int :=
    if ok && f.allowsQuarter days then .ok days else .error .impossible
  let everything (days : Int) : Except Unresolved Int :=
    verified (f.allowsCivil days && f.allowsIsoWeek days && f.allowsYearDay days) days
  match year, isoYear with
  | some y, iso =>
    match f.month, f.day, f.ordinal, f.weekFromSunday, f.weekFromMonday, f.weekday, iso,
        f.isoWeek with
    | some m, some d, _, _, _, _, _, _ =>
      let days ← found (daysOfYmd? y m d)
      verified (f.allowsIsoWeek days && f.allowsYearDay days) days
    | _, _, some o, _, _, _, _, _ => do everything (← found (daysOfYearDay? y o))
    | _, _, _, some w, _, some d, _, _ => do everything (← resolveWeek y w d 6)
    | _, _, _, _, some w, some d, _, _ => do everything (← resolveWeek y w d 0)
    | _, _, _, _, _, some d, some i, some w =>
      let days ← found (daysOfIsoWeek? i w d)
      verified (f.allowsCivil days && f.allowsYearDay days) days
    | _, _, _, _, _, _, _, _ => .error .notEnough
  | none, some i =>
    match f.isoWeek, f.weekday with
    | some w, some d =>
      let days ← found (daysOfIsoWeek? i w d)
      verified (f.allowsCivil days && f.allowsYearDay days) days
    | _, _ => .error .notEnough
  | none, none => .error .notEnough

/-- Seconds since midnight and nanoseconds that the fields name. -/
def resolveTime (f : Fields) : Except Unresolved (Nat × Nat) :=
  match f.hourDiv12, f.hourMod12, f.minute with
  | some half, some hour, some minute =>
    let (second, leap) := match f.second with
      | some 60 => (59, 1000000000)
      | s => (s.getD 0, 0)
    match f.nanosecond, f.second with
    | some _, none => .error .notEnough
    | nano, _ => .ok ((half * 12 + hour) * 3600 + minute * 60 + second, leap + nano.getD 0)
  | _, _, _ => .error .notEnough

/-- The fields with year, day of the year and time taken from a timestamp. -/
def fillFrom? (f : Fields) (timestamp : Int) : Option Fields := do
  let t ← DateTime.ofTicks? 1 timestamp
  let t ←
    if f.second = some 60 then
      if t.second = 59 then some t
      else if t.second = 0 then t.shift? (-1)
      else none
    else some t
  let second ← if f.second = some 60 then some f.second else agree? f.second t.second
  let year ← agree? f.year (civilOfDays t.days).year
  let ordinal ← agree? f.ordinal (yearDay t.days)
  let hourDiv12 ← agree? f.hourDiv12 (t.hour / 12)
  let hourMod12 ← agree? f.hourMod12 (t.hour % 12)
  let minute ← agree? f.minute t.minute
  some { f with second, year, ordinal, hourDiv12, hourMod12, minute }

/-- The date and time that the fields name, read as UTC. -/
def resolveDateTime? (f : Fields) : Option DateTime :=
  match f.resolveDate, f.resolveTime with
  | .ok days, .ok (seconds, nanos) =>
    let t : DateTime := ⟨days, seconds, nanos⟩
    match f.timestamp with
    | none => some t
    | some given =>
      if given = t.timestamp ∨ (1000000000 ≤ nanos ∧ given = t.timestamp + 1) then some t else none
  | date, time =>
    match f.timestamp, date, time with
    | none, _, _ => none
    | _, .error .outOfRange, _ | _, _, .error .outOfRange => none
    | _, .error .impossible, _ | _, _, .error .impossible => none
    | some given, _, _ => do
      let f ← f.fillFrom? given
      match f.resolveDate, f.resolveTime with
      | .ok days, .ok (seconds, nanos) => some ⟨days, seconds, nanos⟩
      | _, _ => none

end Fields

end Tabular.Calendar
