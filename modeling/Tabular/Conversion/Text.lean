import Tabular.Calendar.Iso
import Tabular.Decimal.Read
import Tabular.Decimal.Text
import Tabular.Series
import Tabular.Unicode.CaseMap

/-!
# Values as text

The text of a value of each type that has one, and the readings of text as truth values, dates
and times. Numbers are written with `FloatStyle.column` and read by `FixedInt.read?` and
`Binary.read?`; dates and times have the standard form of `Tabular.Calendar`.

Only dates within the calendar have a text, so writing a date or a timestamp may fail.
-/

namespace Tabular

/-- The local date and time at a number of ticks in a zone that is `offset` seconds ahead. -/
def localTime? (unit : TimeUnit) (offset : Int) (ticks : Int) : Option Calendar.DateTime :=
  (Calendar.DateTime.ofTicks? unit.perSecond ticks).bind (·.shift? offset)

/-- The date and time of a timestamp in its own zone, which is UTC when it has none. -/
def zonedTime? (unit : TimeUnit) (zone : Option String) (ticks : Int) : Option Calendar.DateTime :=
  match zone with
  | none => Calendar.DateTime.ofTicks? unit.perSecond ticks
  | some z => (Calendar.offset? z).bind fun offset ↦ localTime? unit offset ticks

/-- The number of ticks of a UTC date and time, if 64 bits hold it. -/
def ticksOf? (unit : TimeUnit) (t : Calendar.DateTime) : Option (FixedInt .int64) :=
  FixedInt.ofInt? .int64 (t.toTicks unit.perSecond)

/-- The text of a timestamp; with a zone, the offset follows, `Z` for none if `zulu`. -/
def timestampText? (zulu : Bool) (unit : TimeUnit) (zone : Option String) (ticks : Int) :
    Option String := do
  let t ← zonedTime? unit zone ticks
  match zone with
  | none => some t.text
  | some z => some (t.text ++ Calendar.offsetText zulu (← Calendar.offset? z))

/-- The text of a list with the given texts of its rows. -/
def listText (rows : List String) : String := "[" ++ String.intercalate ", " rows ++ "]"

/-- The text of a value, or nothing for a date outside the calendar. -/
def valueText? : (d : DataType) → d.Value → Option String
  | .null, v => nomatch v
  | .boolean, b => some (if b then "true" else "false")
  | .integer _, i => some (toString i.toInt)
  | .float t, x => some ((FloatStyle.column t).formatStored x)
  | .text _, s => some s
  | .date32, days =>
    if Calendar.dateInRange days.toInt then some (Calendar.dateText days.toInt) else none
  | .date64, ticks => (Calendar.DateTime.ofTicks? 1000 ticks.toInt).map (·.text)
  | .timestamp unit zone, ticks => timestampText? true unit zone ticks.toInt
  | .duration unit, ticks => some (Calendar.durationText unit.perSecond ticks.toInt)
  | .list item, rows =>
    (rows.mapM fun row ↦
      match row with
      | none => some ""
      | some v => valueText? item v).map listText

/-! ### Truth values -/

/-- The words for true. -/
def trueWords : List String :=
  ["t", "tr", "tru", "true", "y", "ye", "yes", "on", "1"]

/-- The words for false. -/
def falseWords : List String :=
  ["f", "fa", "fal", "fals", "false", "n", "no", "of", "off", "0"]

/-- The truth value that a text names, in any case and between blanks. -/
def readFlag? (s : String) : Option Bool :=
  let word := Unicode.lowercase
    (String.ofList
      (((s.toList.dropWhile Unicode.isWhiteSpace).reverse.dropWhile Unicode.isWhiteSpace).reverse))
  if trueWords.contains word then some true
  else if falseWords.contains word then some false
  else none

/-! ### Dates and times -/

/-- The day that a text names. -/
def readDays? (s : String) : Option (FixedInt .int32) :=
  (Calendar.readDate? s).bind (FixedInt.ofInt? .int32)

/-- The millisecond that a text names, as a date or as a date and time. -/
def readMillis? (s : String) : Option (FixedInt .int64) :=
  if s.utf8ByteSize ≤ 10 then
    (Calendar.readDate? s).bind fun days ↦ FixedInt.ofInt? .int64 (days * 86400000)
  else (Calendar.readDateTime? 0 s).bind (ticksOf? .millisecond)

/-- The tick that a text names, local to the zone when it has no offset of its own. -/
def readTicks? (unit : TimeUnit) (zone : Option String) (s : String) :
    Option (FixedInt .int64) := do
  let offset ← match zone with
    | none => some 0
    | some z => Calendar.offset? z
  let t ← Calendar.readDateTime? offset s
  ticksOf? unit t

end Tabular
