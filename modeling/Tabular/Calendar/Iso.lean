import Tabular.Calendar.Date
import Tabular.Calendar.Offset
import Tabular.Power
import Tabular.Unicode.Property

/-!
# Standard date and time text

The text of dates, times and durations in the international standard form, as columns of text
hold it: `2024-01-02`, `2024-01-02T03:04:05.123`, `2024-01-02T03:04:05+02:00`, `PT1.5S`.

Reading is exact about places. A date has four digits of year and one or two of month and day, or
is eight digits, or has a signed longer year; what follows a date of fewer than ten characters in
hyphenated form is not looked at. A date and time has two digits in every place.
-/

namespace Tabular.Calendar

/-! ### Writing -/

/-- A number with leading zeros up to a width. -/
def padded (width : Nat) (n : Nat) : String :=
  let digits := toString n
  String.ofList (List.replicate (width - digits.length) '0') ++ digits

/-- A year: four digits, or a sign and at least four outside 0 … 9999. -/
def yearText (y : Int) : String :=
  if 0 ≤ y ∧ y ≤ 9999 then padded 4 y.toNat
  else (if y < 0 then "-" else "+") ++ padded 4 y.natAbs

/-- The text of a date. -/
def dateText (days : Int) : String :=
  let c := civilOfDays days
  yearText c.year ++ "-" ++ padded 2 c.month ++ "-" ++ padded 2 c.day

/-- Nanoseconds as a fraction of three, six or nine digits, or nothing. -/
def fractionText (nanos : Nat) : String :=
  if nanos = 0 then ""
  else if nanos % 1000000 = 0 then "." ++ padded 3 (nanos / 1000000)
  else if nanos % 1000 = 0 then "." ++ padded 6 (nanos / 1000)
  else "." ++ padded 9 nanos

/-- The text of a date and time. -/
def DateTime.text (t : DateTime) : String :=
  dateText t.days ++ "T" ++ padded 2 t.hour ++ ":" ++ padded 2 t.minute ++ ":" ++
    padded 2 t.second ++ fractionText t.nanos

/-- The text of an offset from UTC; `Z` for none if asked. -/
def offsetText (zulu : Bool) (seconds : Int) : String :=
  if zulu && seconds = 0 then "Z"
  else
    (if seconds < 0 then "-" else "+") ++ padded 2 (seconds.natAbs / 3600) ++ ":" ++
      padded 2 (seconds.natAbs / 60 % 60)

/-- Digits without trailing zeros. -/
def dropTrailingZeros (s : String) : String :=
  String.ofList ((s.toList.reverse.dropWhile (· = '0')).reverse)

/-- The text of a duration of `ticks`, `perSecond` to the second. -/
def durationText (perSecond : Nat) (ticks : Int) : String :=
  let n := ticks.natAbs
  let nanos := n % perSecond * (1000000000 / perSecond)
  (if ticks < 0 then "-P" else "P") ++
    if n = 0 then "0D"
    else "T" ++ toString (n / perSecond) ++
      (if nanos = 0 then "" else "." ++ dropTrailingZeros (padded 9 nanos)) ++ "S"

/-! ### Reading -/

/-- The bytes of a text, as numbers. -/
def bytesOf (s : String) : Array Nat := (s.toUTF8.toList.map UInt8.toNat).toArray

/-- The digit at a place. -/
def digitAt? (b : Array Nat) (i : Nat) : Option Nat :=
  b[i]?.bind fun n ↦ if 48 ≤ n ∧ n ≤ 57 then some (n - 48) else none

/-- Whether the byte at a place is the ASCII character. -/
def charAt (b : Array Nat) (i : Nat) (c : Char) : Bool := b[i]? == some c.toNat

/-- The number written by the digits at the places. -/
def numberAt? (b : Array Nat) (places : List Nat) : Option Nat :=
  places.foldlM (fun n i ↦ (digitAt? b i).map (10 * n + ·)) 0

/-- Which of the places `first, …, first + n - 1` hold digits. -/
def digitPattern (b : Array Nat) (first n : Nat) : List Bool :=
  (List.range n).map fun i ↦ (digitAt? b (first + i)).isSome

/-- A pattern of digit places, written with `d` for digits. -/
def patternOf (s : String) : List Bool := s.toList.map (· == 'd')

/-- The date that starts a text: `YYYY-MM-DD`. -/
def readFullDate? (b : Array Nat) : Option Int := do
  if digitPattern b 0 10 = patternOf "dddd-dd-dd" && charAt b 4 '-' && charAt b 7 '-' then
    let y ← numberAt? b [0, 1, 2, 3]
    let m ← numberAt? b [5, 6]
    let d ← numberAt? b [8, 9]
    daysOfYmd? y m d
  else none

/-- The digits of a second after a point at place `i`, at most twelve places up to `limit`, and
the place after them. Digits beyond the ninth do not count. -/
def readPlacesFraction? (b : Array Nat) (i : Nat) : Option (Nat × Nat) :=
  let run := ((List.range (32 - i)).takeWhile fun k ↦ (digitAt? b (i + k)).isSome).length
  if run = 0 then none
  else
    let used := Nat.min run 9
    (numberAt? b ((List.range used).map (i + ·))).map fun n ↦ (n * tenTo (9 - used), i + run)

/-- The time of day from hours, minutes, seconds and nanoseconds; second 60 is a leap second. -/
def timeOfDay? (h m s nanos : Nat) : Option (Nat × Nat) :=
  let (s, nanos) := if s = 60 then (59, 1000000000 + nanos) else (s, nanos)
  if h < 24 ∧ m < 60 ∧ s < 60 then some (h * 3600 + m * 60 + s, nanos) else none

/-- The time of day at place 11: `HH:MM:SS` or `HHMMSS` with an optional fraction, or `HH:MM`;
also the place after it. -/
def readTime? (b : Array Nat) : Option ((Nat × Nat) × Nat) := do
  let pattern := digitPattern b 11 8
  let withFraction (h m s : Nat) (i : Nat) : Option ((Nat × Nat) × Nat) := do
    if charAt b i '.' then
      let (nanos, next) ← readPlacesFraction? b (i + 1)
      some (← timeOfDay? h m s nanos, next)
    else some (← timeOfDay? h m s 0, i)
  if pattern = patternOf "dd:dd:dd" && charAt b 13 ':' && charAt b 16 ':' then
    withFraction (← numberAt? b [11, 12]) (← numberAt? b [14, 15]) (← numberAt? b [17, 18]) 19
  else if pattern = patternOf "dd:dd   " && charAt b 13 ':' then
    some (← timeOfDay? (← numberAt? b [11, 12]) (← numberAt? b [14, 15]) 0 0, 16)
  else if pattern = patternOf "dddddd  " then
    withFraction (← numberAt? b [11, 12]) (← numberAt? b [13, 14]) (← numberAt? b [15, 16]) 17
  else none

/-- The UTC date and time that a text names; without an offset of its own it is local to a zone
that is `offset` seconds ahead. -/
def readDateTime? (offset : Int) (s : String) : Option DateTime := do
  let b := bytesOf s
  if b.size < 10 then none
  let days ← readFullDate? b
  if b.size = 10 then (⟨days, 0, 0⟩ : DateTime).shift? (-offset)
  else if !(charAt b 10 'T' || charAt b 10 't' || charAt b 10 ' ') then none
  else
    let ((seconds, nanos), next) ← readTime? b
    let next :=
      if next = 32 then
        next + ((List.range (b.size - 32)).takeWhile fun k ↦ (digitAt? b (32 + k)).isSome).length
      else next
    let t : DateTime := ⟨days, seconds, nanos⟩
    if b.size ≤ next then t.shift? (-offset)
    else if (charAt b next 'z' || charAt b next 'Z') && next + 1 = b.size then some t
    else
      let rest := (s.toList.drop next).dropWhile Unicode.isWhiteSpace
      let own ← offset? (String.ofList rest)
      t.shift? (-own)

/-- A signed integer after an optional plus. -/
def readCount? (cs : List Char) : Option Nat :=
  let cs := match cs with
    | '+' :: rest => rest
    | cs => cs
  if cs.isEmpty || !cs.all Char.isDigit then none
  else some (cs.foldl (fun n c ↦ 10 * n + (c.toNat - '0'.toNat)) 0)

/-- A date with a signed year of at least four digits. -/
def readSignedDate? (sign : Char) (cs : List Char) : Option Int := do
  let year := cs.takeWhile (· ≠ '-')
  let rest := cs.drop (year.length + 1)
  if year.length < 4 || cs.length ≤ year.length || !year.all Char.isDigit then none
  let month := rest.takeWhile (· ≠ '-')
  if rest.length ≤ month.length then none
  let y ← readCount? year
  let m ← readCount? month
  let d ← readCount? (rest.drop (month.length + 1))
  daysOfYmd? (if sign = '-' then -(y : Int) else y) m d

/-- The date that a text names. -/
def readDate? (s : String) : Option Int :=
  let b := bytesOf s
  match s.toList with
  | '+' :: rest => readSignedDate? '+' rest
  | '-' :: rest => readSignedDate? '-' rest
  | _ =>
    if 10 < b.size then (readDateTime? 0 s).map (·.days)
    else
      let named (month day : List Nat) : Option Int := do
        daysOfYmd? (← numberAt? b [0, 1, 2, 3]) (← numberAt? b month) (← numberAt? b day)
      let pattern := digitPattern b 0 10
      if !charAt b 4 '-' then
        if b.size = 8 && pattern = patternOf "dddddddd  " then named [4, 5] [6, 7] else none
      else if pattern = patternOf "dddd-dd-dd" then
        if charAt b 7 '-' then named [5, 6] [8, 9] else none
      else if pattern = patternOf "dddd-dd-d " then
        if charAt b 7 '-' then named [5, 6] [8] else none
      else if pattern = patternOf "dddd-d-dd " then
        if charAt b 6 '-' then named [5] [7, 8] else none
      else if pattern = patternOf "dddd-d-d  " then
        if charAt b 6 '-' then named [5] [7] else none
      else none

end Tabular.Calendar
