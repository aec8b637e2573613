import Tabular.Conversion.Text

/-!
# The table of conversions

`conversion? s d` is the way to turn rows of type `s` into rows of type `d`, for the pairs of types
that have one. A value that the target cannot hold becomes a null; only a date outside the calendar
makes a conversion fail.

* Among numbers: fractions are cut off toward zero, what does not fit is null, and what has no
  exact floating-point number goes to the nearest one. A number is true unless it is zero. Text is
  not read as a number of half precision.
* Text is read and written as in `Tabular.Conversion.Text`.
* Between units of time, ticks are multiplied or divided, the quotient going toward zero. A
  timestamp that gains a zone keeps its local time; otherwise the instant stays.
* A list is converted row by row, and a row of any other type becomes a list of that row alone.

A conversion that has to know what a zone means fails for a series whose zone is no offset, whatever
its rows (`DataType.zoneRead?`).
-/

namespace Tabular

/-- A way to turn rows of one type into rows of another. -/
abbrev Conversion (s d : DataType) := Option s.Value → Outcome (Option d.Value)

namespace Conversion

/-- Milliseconds in a day. -/
def millisPerDay : Int := 86400000

/-- A 64-bit count of ticks, if it fits. -/
def ticks? (i : Int) : Option (FixedInt .int64) := FixedInt.ofInt? .int64 i

/-- Ticks of one unit in another, toward zero. -/
def rescale (source target : TimeUnit) (ticks : Int) : Option (FixedInt .int64) :=
  if source.perSecond ≤ target.perSecond then
    ticks? (ticks * (target.perSecond / source.perSecond : Nat))
  else ticks? (ticks.tdiv (source.perSecond / target.perSecond : Nat))

/-- The ticks at which local time in the zone is what UTC is at the given ticks. -/
def asLocal? (unit : TimeUnit) (zone : String) (ticks : FixedInt .int64) :
    Option (FixedInt .int64) := do
  let offset ← Calendar.offset? zone
  let t ← Calendar.DateTime.ofTicks? unit.perSecond ticks.toInt
  ticksOf? unit (← t.shift? (-offset))

/-- Ticks without a zone as ticks of a timestamp type. -/
def enterZone (unit : TimeUnit) (zone : Option String) (ticks : FixedInt .int64) :
    Option (FixedInt .int64) :=
  match zone with
  | none => some ticks
  | some z => asLocal? unit z ticks

/-- Conversions into truth values. -/
def toFlag? : (s : DataType) → Option (s.Value → Option Bool)
  | .boolean => some some
  | .integer _ => some fun i ↦ some (decide (i.toInt ≠ 0))
  | .float _ => some fun x ↦ some (!x.isZero)
  | .text _ => some readFlag?
  | _ => none

/-- Conversions into integers. -/
def toInteger? (t : IntType) : (s : DataType) → Option (s.Value → Option (FixedInt t))
  | .boolean => some fun b ↦ FixedInt.ofInt? t (if b then 1 else 0)
  | .integer _ => some fun i ↦ FixedInt.ofInt? t i.toInt
  | .float _ => some fun x ↦ x.truncate?.bind (FixedInt.ofInt? t)
  | .text _ => some (FixedInt.read? t)
  | .date32 =>
    if t = .int32 ∨ t = .int64 then some fun i ↦ FixedInt.ofInt? t i.toInt else none
  | .date64 =>
    if t = .int32 ∨ t = .int64 then some fun i ↦ FixedInt.ofInt? t i.toInt else none
  | .timestamp _ _ => some fun i ↦ FixedInt.ofInt? t i.toInt
  | .duration _ => some fun i ↦ FixedInt.ofInt? t i.toInt
  | _ => none

/-- Conversions into floating-point numbers. -/
def toFloating? (t : FloatType) : (s : DataType) → Option (s.Value → Option (Binary t))
  | .boolean => some fun b ↦ some (Binary.stored t (if b then 1 else 0))
  | .integer _ => some fun i ↦ some (Binary.stored t i.toInt)
  | .float _ => some fun x ↦ some (Binary.restored t x)
  | .text _ => if t.hasArithmetic then some (Binary.read? t) else none
  | .timestamp _ _ => some fun i ↦ some (Binary.stored t i.toInt)
  | .duration _ => some fun i ↦ some (Binary.stored t i.toInt)
  | _ => none

/-- The number as 64-bit ticks, for types of numbers. -/
def numberTicks? (s : DataType) : Option (s.Value → Option (FixedInt .int64)) :=
  if s.isInteger || s.isFloating then toInteger? .int64 s else none

/-- Conversions into days. -/
def toDays? : (s : DataType) → Option (s.Value → Outcome (Option (FixedInt .int32)))
  | .integer .int32 => some fun i ↦ .ok (some i)
  | .integer .int64 => some fun i ↦ .ok (FixedInt.ofInt? .int32 i.toInt)
  | .text _ => some fun s ↦ .ok (readDays? s)
  | .date64 => some fun i ↦ .ok (some (FixedInt.wrap .int32 (i.toInt.tdiv millisPerDay)))
  | .timestamp unit zone => some fun i ↦
    match zonedTime? unit zone i.toInt with
    | some t => .ok (FixedInt.ofInt? .int32 t.days)
    | none => kernelFault .dateOutOfRange
  | _ => none

/-- Conversions into dates that count milliseconds. -/
def toMillis? : (s : DataType) → Option (s.Value → Option (FixedInt .int64))
  | .integer .int32 => some fun i ↦ ticks? (i.toInt * millisPerDay)
  | .integer .int64 => some some
  | .text _ => some readMillis?
  | .date32 => some fun i ↦ ticks? (i.toInt * millisPerDay)
  | .timestamp unit _ => some fun i ↦ rescale unit .millisecond i.toInt
  | _ => none

/-- Conversions into timestamps. -/
def toTimestamp? (unit : TimeUnit) (zone : Option String) :
    (s : DataType) → Option (s.Value → Option (FixedInt .int64))
  | .text _ => some (readTicks? unit zone)
  | .date32 => some fun i ↦
    (rescale .second unit (i.toInt * Calendar.secondsPerDay)).bind (enterZone unit zone)
  | .date64 => some fun i ↦ (rescale .millisecond unit i.toInt).bind (enterZone unit zone)
  | .timestamp unit' zone' => some fun i ↦
    (rescale unit' unit i.toInt).bind fun ticks ↦
      if zone'.isNone then enterZone unit zone ticks else some ticks
  | s => numberTicks? s

/-- Conversions into durations. -/
def toDuration? (unit : TimeUnit) : (s : DataType) → Option (s.Value → Option (FixedInt .int64))
  | .duration unit' => some fun i ↦ rescale unit' unit i.toInt
  | s => numberTicks? s

/-- Conversions into text. -/
def toText? (s : DataType) : Option (s.Value → Outcome (Option String)) :=
  match s with
  | .null => none
  | s => some fun v ↦
    match valueText? s v with
    | some text => .ok (some text)
    | none => kernelFault .dateOutOfRange

/-- The conversion of rows from one of values; nulls stay. -/
def onValues {α β : Type} (f : α → Outcome (Option β)) : Option α → Outcome (Option β)
  | none => .ok none
  | some v => f v

/-- The conversion of rows from one of values that never fails; nulls stay. -/
def total {α β : Type} (f : α → Option β) (row : Option α) : Outcome (Option β) :=
  .ok (row.bind f)

/-- The conversion of items: those of the target's type stay, those of the null type are null, and
the others need an entry of the table. -/
def ofItems? (s d : DataType) (entry : Option (Conversion s d)) : Option (Conversion s d) :=
  if h : s = d then some fun row ↦ .ok (h ▸ row)
  else if s = .null then some fun _ ↦ .ok none
  else entry

end Conversion

open Conversion in
/-- The conversion from one type to another, if there is one. -/
def conversion? (s : DataType) : (d : DataType) → Option (Conversion s d)
  | .null => none
  | .boolean => (toFlag? s).map total
  | .integer t => (toInteger? t s).map total
  | .float t => (toFloating? t s).map total
  | .text _ => (toText? s).map onValues
  | .date32 => (toDays? s).map onValues
  | .date64 => (toMillis? s).map total
  | .timestamp unit zone => (toTimestamp? unit zone s).map total
  | .duration unit => (toDuration? unit s).map total
  | .list item =>
    match s with
    | .list item' => (ofItems? item' item (conversion? item' item)).map fun f ↦
      onValues fun rows ↦ do .ok (some (← rows.mapM f))
    | s => (ofItems? s item (conversion? s item)).map fun f row ↦ do
      .ok (some [← f row])

/-- Whether the table has an entry for the pair of types: each type converts to itself, and the
null type to every type. -/
def DataType.converts (s d : DataType) : Bool :=
  s = d || s = .null || (conversion? s d).isSome

namespace DataType

/-- The zone whose offset a conversion of one type to another has to know. -/
def zoneRead? : (s d : DataType) → Option String
  | .text _, .timestamp _ zone => zone
  | .date32, .timestamp _ zone => zone
  | .date64, .timestamp _ zone => zone
  | .timestamp _ none, .timestamp _ zone => zone
  | .timestamp _ zone, .date32 => zone
  | s, .text _ => s.zone?
  | .list item, .list item' => if item = item' then none else zoneRead? item item'
  | s, .list item => if s = item then none else zoneRead? s item
  | _, _ => none

/-- The zone that a conversion has to know and that is no offset. -/
def unknownZone? (s d : DataType) : Option String :=
  Calendar.unknownZone? (s.zoneRead? d)

end DataType

/-- The conversion of one type to another. It is missing if the table has no entry for the types, or
if it has to know a zone that is no offset. -/
def Conversion.between (s d : DataType) : Outcome (Conversion s d) :=
  match conversion? s d, s.unknownZone? d with
  | none, _ => kernelFault (.conversion s d)
  | some _, some zone => kernelFault (.unknownZone zone)
  | some f, none => .ok f

/-- Rows are converted exactly if the table has the pair of types and no zone is needed that cannot
be read. -/
theorem Conversion.between_eq_ok_iff {s d : DataType} {f : Conversion s d} :
    Conversion.between s d = .ok f ↔ conversion? s d = some f ∧ s.unknownZone? d = none := by
  unfold between
  split
  · next h => exact iff_of_false (fun h ↦ by cases h) fun h' ↦ by cases h.symm.trans h'.1
  · next h => exact iff_of_false (fun h ↦ by cases h) fun h' ↦ by cases h.symm.trans h'.2
  · next h hzone => simp [h, hzone]

/-- The conversion is that of the table where the zones can be read. -/
theorem Conversion.between_eq_ok {s d : DataType} {f : Conversion s d}
    (hf : conversion? s d = some f) (hzone : s.unknownZone? d = none) :
    Conversion.between s d = .ok f :=
  between_eq_ok_iff.2 ⟨hf, hzone⟩

/-- No row is converted where a zone is needed that is no offset. -/
theorem Conversion.between_eq_error {s d : DataType} {zone : String}
    (hzone : s.unknownZone? d = some zone) :
    ∃ fault, Conversion.between s d = kernelFault fault := by
  rw [between, hzone]
  cases conversion? s d <;> exact ⟨_, rfl⟩

namespace Series

/-- The rows of the series as rows of type `d`. -/
def convertRows (s : Series) (d : DataType) : Outcome (List (Option d.Value)) :=
  if h : s.dtype = d then .ok (h ▸ s.rows)
  else if s.dtype = .null then .ok (List.replicate s.length none)
  else do s.rows.mapM (← Conversion.between s.dtype d)

/-- The series as one of type `d`. -/
def convert (s : Series) (d : DataType) : Outcome Series := do
  .ok ⟨d, ← s.convertRows d⟩

end Series

end Tabular
