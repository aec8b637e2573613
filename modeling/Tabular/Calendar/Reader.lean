import Tabular.Calendar.Fields
import Tabular.Calendar.Format

/-!
# Reading dates and times

`parse? format s` is the date and time that a text names in a format. Items are read one after the
other; each takes a piece of the text and sets fields. White space in front of numbers and offsets
is passed over, names are read in any case, and the text must be used up.

Reading sets fields and does not yet make a date of them. What the fields name is found at the end,
and a text may be read to its last character and still name no time.
-/

namespace Tabular.Calendar

/-- The text after leading white space. -/
def skipSpace (cs : List Char) : List Char := cs.dropWhile Unicode.isWhiteSpace

/-- The greatest 64-bit integer. -/
def integerLimit : Nat := twoTo 63 - 1

/-- A run of one to `most` ASCII digits. -/
def readNumber? (most : Option Nat) (cs : List Char) : Option (Nat × List Char) :=
  let run := cs.takeWhile Char.isDigit
  let digits := match most with
    | none => run
    | some n => run.take n
  let value := digits.foldl (fun n c ↦ 10 * n + (c.toNat - '0'.toNat)) 0
  if digits.isEmpty || integerLimit < value then none else some (value, cs.drop digits.length)

/-- Exactly `n` ASCII digits. -/
def readDigits? (n : Nat) (cs : List Char) : Option (Nat × List Char) :=
  let digits := cs.take n
  if digits.length = n ∧ digits.all Char.isDigit then
    some (digits.foldl (fun n c ↦ 10 * n + (c.toNat - '0'.toNat)) 0, cs.drop n)
  else none

/-- The most digits of a field without a sign. -/
def Field.width : Field → Option Nat
  | .year | .isoYear => some 4
  | .quarter | .daysFromSunday | .dayFromMonday => some 1
  | .ordinal => some 3
  | .nanosecond => some 9
  | .timestamp => none
  | _ => some 2

/-- Fields that may have a sign. -/
def Field.signed : Field → Bool
  | .year | .isoYear => true
  | _ => false

/-- The number, if it lies in a range. -/
def within? (low high : Int) (v : Int) : Option Int := if low ≤ v ∧ v ≤ high then some v else none

namespace Fields

/-- The half of the day and the hour in it. -/
def setHour? (f : Fields) (h : Nat) : Option Fields := do
  let hourDiv12 ← agree? f.hourDiv12 (h / 12)
  let hourMod12 ← agree? f.hourMod12 (h % 12)
  some { f with hourDiv12, hourMod12 }

/-- Sets a numeric field, if the number is in its range and agrees with what is known. -/
def set? (f : Fields) (field : Field) (v : Int) : Option Fields := do
  let ranged (low high : Int) : Option Nat := (within? low high v).map Int.toNat
  match field with
  | .year =>
    let year ← agree? f.year (← within? (-(twoTo 31 : Int)) (twoTo 31 - 1 : Int) v)
    some { f with year }
  | .yearDiv100 =>
    let yearDiv100 ← agree? f.yearDiv100 v
    some { f with yearDiv100 }
  | .yearMod100 =>
    let yearMod100 ← agree? f.yearMod100 v
    some { f with yearMod100 }
  | .isoYear =>
    let isoYear ← agree? f.isoYear (← within? (-(twoTo 31 : Int)) (twoTo 31 - 1 : Int) v)
    some { f with isoYear }
  | .isoYearMod100 =>
    let isoYearMod100 ← agree? f.isoYearMod100 v
    some { f with isoYearMod100 }
  | .quarter =>
    let quarter ← agree? f.quarter (← ranged 1 4)
    some { f with quarter }
  | .month =>
    let month ← agree? f.month (← ranged 1 12)
    some { f with month }
  | .day =>
    let day ← agree? f.day (← ranged 1 31)
    some { f with day }
  | .weekFromSunday =>
    let weekFromSunday ← agree? f.weekFromSunday (← ranged 0 53)
    some { f with weekFromSunday }
  | .weekFromMonday =>
    let weekFromMonday ← agree? f.weekFromMonday (← ranged 0 53)
    some { f with weekFromMonday }
  | .isoWeek =>
    let isoWeek ← agree? f.isoWeek (← ranged 1 53)
    some { f with isoWeek }
  | .daysFromSunday =>
    let weekday ← agree? f.weekday (((← ranged 0 6) + 6) % 7)
    some { f with weekday }
  | .dayFromMonday =>
    let weekday ← agree? f.weekday ((← ranged 1 7) - 1)
    some { f with weekday }
  | .ordinal =>
    let ordinal ← agree? f.ordinal (← ranged 1 366)
    some { f with ordinal }
  | .hour => f.setHour? (← ranged 0 23)
  | .hour12 =>
    let hourMod12 ← agree? f.hourMod12 ((← ranged 1 12) % 12)
    some { f with hourMod12 }
  | .minute =>
    let minute ← agree? f.minute (← ranged 0 59)
    some { f with minute }
  | .second =>
    let second ← agree? f.second (← ranged 0 60)
    some { f with second }
  | .nanosecond =>
    let nanosecond ← agree? f.nanosecond (← ranged 0 999999999)
    some { f with nanosecond }
  | .timestamp =>
    let timestamp ← agree? f.timestamp v
    some { f with timestamp }

/-- Sets the weekday, counted from Monday as 0. -/
def setWeekday? (f : Fields) (day : Nat) : Option Fields := do
  let weekday ← agree? f.weekday day
  some { f with weekday }

/-- Sets the half of the day. -/
def setHalf? (f : Fields) (half : Nat) : Option Fields := do
  let hourDiv12 ← agree? f.hourDiv12 half
  some { f with hourDiv12 }

/-- Sets the offset from UTC. -/
def setOffset? (f : Fields) (seconds : Int) : Option Fields := do
  let offset ← agree? f.offset seconds
  some { f with offset }

end Fields

/-! ### Names -/

/-- The months: the three letters of the short name, and what the long name adds. -/
def monthNames : List (String × String) := [
  ("jan", "uary"), ("feb", "ruary"), ("mar", "ch"), ("apr", "il"), ("may", ""), ("jun", "e"),
  ("jul", "y"), ("aug", "ust"), ("sep", "tember"), ("oct", "ober"), ("nov", "ember"),
  ("dec", "ember")]

/-- The weekdays from Monday: the three letters of the short name, and what the long name adds. -/
def weekdayNames : List (String × String) := [
  ("mon", "day"), ("tue", "sday"), ("wed", "nesday"), ("thu", "rsday"), ("fri", "day"),
  ("sat", "urday"), ("sun", "day")]

/-- The text after a word, in any case. -/
def afterWord? (word : String) (cs : List Char) : Option (List Char) :=
  if (cs.take word.length).map Char.toLower = word.toList then some (cs.drop word.length) else none

/-- The place of a name in a list; the long form is read too if `long`. -/
def readName? (long : Bool) : List (String × String) → Nat → List Char → Option (Nat × List Char)
  | [], _, _ => none
  | (short, suffix) :: others, i, cs =>
    match afterWord? short cs with
    | none => readName? long others (i + 1) cs
    | some rest => some (i, if long then (afterWord? suffix rest).getD rest else rest)

/-! ### Offsets -/

/-- An offset from UTC: a sign, two digits of hours, and two of minutes after any colons and
blanks. -/
def readOffset? (zulu missingMinutes : Bool) (cs : List Char) : Option (Int × List Char) := do
  if zulu && (cs.head? == some 'Z' || cs.head? == some 'z') then
    return (0, cs.drop 1)
  let (negative, cs) ← match cs with
    | '+' :: rest => some (false, rest)
    | '-' :: rest | '−' :: rest => some (true, rest)
    | _ => none
  let (hours, cs) ← readDigits? 2 cs
  let cs := cs.dropWhile fun c ↦ c = ':' || Unicode.isWhiteSpace c
  let (minutes, cs) ←
    match readDigits? 2 cs with
    | some (m, rest) => if m < 60 then some (m, rest) else none
    | none => if missingMinutes && cs.isEmpty then some (0, []) else none
  let seconds : Int := hours * 3600 + minutes * 60
  some (if negative then -seconds else seconds, cs)

/-! ### Items -/

/-- Digits of a second after its point: at most nine count, further ones are passed over. -/
def readFraction? (cs : List Char) : Option (Nat × List Char) :=
  (readNumber? (some 9) cs).map fun (v, rest) ↦
    (v * tenTo (9 - (cs.length - rest.length)), rest.dropWhile Char.isDigit)

/-- Exactly `n` digits of a second. -/
def readFractionOf? (n : Nat) (cs : List Char) : Option (Nat × List Char) :=
  (readDigits? n cs).map fun (v, rest) ↦ (v * tenTo (9 - n), rest)

/-- Reads a numeric field. -/
def readField? (field : Field) (f : Fields) (cs : List Char) : Option (Fields × List Char) := do
  let cs := skipSpace cs
  let (v, rest) ←
    match field.signed, cs with
    | true, '-' :: rest => (readNumber? none rest).map fun (v, rest) ↦ (-(v : Int), rest)
    | true, '+' :: rest => (readNumber? none rest).map fun (v, rest) ↦ ((v : Int), rest)
    | _, cs => (readNumber? field.width cs).map fun (v, rest) ↦ ((v : Int), rest)
  some (← f.set? field v, rest)

/-- Reads an item that is not a whole date and time. -/
def readSimple? (item : Item) (f : Fields) (cs : List Char) : Option (Fields × List Char) := do
  match item with
  | .literal text => if text.isPrefixOf cs then some (f, cs.drop text.length) else none
  | .space => some (f, skipSpace cs)
  | .number field => readField? field f cs
  | .shortMonth =>
    let (i, rest) ← readName? false monthNames 0 cs
    some (← f.set? .month (i + 1), rest)
  | .longMonth =>
    let (i, rest) ← readName? true monthNames 0 cs
    some (← f.set? .month (i + 1), rest)
  | .shortWeekday =>
    let (i, rest) ← readName? false weekdayNames 0 cs
    some (← f.setWeekday? i, rest)
  | .longWeekday =>
    let (i, rest) ← readName? true weekdayNames 0 cs
    some (← f.setWeekday? i, rest)
  | .amPm =>
    match afterWord? "am" cs, afterWord? "pm" cs with
    | some rest, _ => some (← f.setHalf? 0, rest)
    | _, some rest => some (← f.setHalf? 1, rest)
    | none, none => none
  | .fraction =>
    match cs with
    | '.' :: rest =>
      let (v, rest) ← readFraction? rest
      some (← f.set? .nanosecond v, rest)
    | _ => some (f, cs)
  | .fractionOf n =>
    match cs with
    | '.' :: rest =>
      let (v, rest) ← readFractionOf? n rest
      some (← f.set? .nanosecond v, rest)
    | _ => some (f, cs)
  | .fractionDigits n =>
    let (v, rest) ← readFractionOf? n cs
    some (← f.set? .nanosecond v, rest)
  | .zoneName => some (f, cs.dropWhile fun c ↦ !Unicode.isWhiteSpace c)
  | .zoneOffset permissive =>
    let (seconds, rest) ← readOffset? permissive permissive (skipSpace cs)
    some (← f.setOffset? seconds, rest)
  | .internet => none

/-- Reads items that are not whole dates and times. -/
def readSimples? (items : List Item) (f : Fields) (cs : List Char) : Option (Fields × List Char) :=
  items.foldlM (fun (f, cs) item ↦ readSimple? item f cs) (f, cs)

/-- Year, month and day, white space allowed around the hyphens. -/
def internetDate : List Item :=
  [.number .year, .space, .literal ['-'], .number .month, .space, .literal ['-'], .number .day]

/-- The time of day, white space allowed around the colons. -/
def internetTime : List Item :=
  [.number .hour, .space, .literal [':'], .number .minute, .space, .literal [':'],
    .number .second, .fraction, .space]

/-- Reads an item. -/
def readItem? (item : Item) (f : Fields) (cs : List Char) : Option (Fields × List Char) := do
  match item with
  | .internet =>
    let (f, rest) ← readSimples? internetDate f cs
    let rest ← match rest with
      | c :: rest => if c = 't' ∨ c = 'T' ∨ c = ' ' then some rest else none
      | [] => none
    let (f, rest) ← readSimples? internetTime f rest
    match afterWord? "utc" rest with
    | some rest => some (← f.setOffset? 0, rest)
    | none =>
      let (seconds, rest) ← readOffset? true false rest
      some (← f.setOffset? seconds, rest)
  | item => readSimple? item f cs

/-- The fields read from a whole text. -/
def Fields.read? (items : List Item) (s : String) : Option Fields :=
  match items.foldlM (fun (f, cs) item ↦ readItem? item f cs) (({} : Fields), s.toList) with
  | some (f, []) => some f
  | _ => none

/-- The date and time that a text names in a format. A text with a date alone names midnight. -/
def parse? (format s : String) : Option DateTime := do
  let items ← Item.listOf? format
  let f ← Fields.read? items s
  f.resolveDateTime? <|>
    match f.resolveDate with
    | .ok days => some ⟨days, 0, 0⟩
    | .error _ => none

end Tabular.Calendar
