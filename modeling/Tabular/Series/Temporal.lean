import Tabular.Conversion.Text

/-!
# Components of dates and times

Year, month, day and the parts of the time of day, of dates and of timestamps in their own zone.
The parts of a second are each taken alone: microseconds do not count the milliseconds.
-/

namespace Tabular

/-- A component of a date or timestamp. -/
inductive DateComponent where
  | year
  | month
  | day
  /-- Monday is 1. -/
  | weekday
  | hour
  | minute
  | second
  | millisecond
  | microsecond
  | nanosecond
deriving DecidableEq, Repr

namespace DateComponent

/-- The component's name. -/
def name : DateComponent → String
  | year => "Year"
  | month => "Month"
  | day => "Day"
  | weekday => "Weekday"
  | hour => "Hour"
  | minute => "Minute"
  | second => "Second"
  | millisecond => "Millisecond"
  | microsecond => "Microsecond"
  | nanosecond => "Nanosecond"

/-- Every component. -/
def all : List DateComponent :=
  [year, month, day, weekday, hour, minute, second, millisecond, microsecond, nanosecond]

/-- Components that a date without a time of day has. -/
def ofDate : DateComponent → Bool
  | year => true
  | month => true
  | day => true
  | weekday => true
  | _ => false

/-- The component of a date and time. -/
def read (c : DateComponent) (t : Calendar.DateTime) : Int :=
  match c with
  | year => (Calendar.civilOfDays t.days).year
  | month => (Calendar.civilOfDays t.days).month
  | day => (Calendar.civilOfDays t.days).day
  | weekday => Calendar.weekday t.days + 1
  | hour => t.hour
  | minute => t.minute
  | second => t.second
  | millisecond => (t.nanos / 1000000 : Nat)
  | microsecond => (t.nanos / 1000 % 1000 : Nat)
  | nanosecond => (t.nanos % 1000 : Nat)

end DateComponent

/-- Whether the type has the component. -/
def DataType.hasComponent (d : DataType) (c : DateComponent) : Bool :=
  match d with
  | .timestamp _ _ => true
  | .date32 => c.ofDate
  | .date64 => c.ofDate
  | _ => false

namespace Series

/-- The date and time of every row, for series of dates and timestamps. -/
def times? (s : Series) : Option (List (Option Calendar.DateTime)) :=
  match s with
  | ⟨.date32, rows⟩ => some <| rows.map fun row ↦ row.bind fun days ↦
      if Calendar.dateInRange days.toInt then some ⟨days.toInt, 0, 0⟩ else none
  | ⟨.date64, rows⟩ => some <| rows.map fun row ↦ row.bind fun i ↦
      Calendar.DateTime.ofTicks? 1000 i.toInt
  | ⟨.timestamp unit zone, rows⟩ => some <| rows.map fun row ↦ row.bind fun i ↦
      zonedTime? unit zone i.toInt
  | _ => none

/-- The component of every row, as 32-bit integers; values outside the calendar have none. A zone
that is no offset is a failure, whatever the rows. -/
def component (c : DateComponent) (s : Series) : Outcome Series :=
  match s.times?, s.dtype.hasComponent c, Calendar.unknownZone? s.dtype.zone? with
  | some _, true, some zone => kernelFault (.unknownZone zone)
  | some times, true, none =>
    .ok ⟨.integer .int32, times.map (·.bind fun t ↦ FixedInt.ofInt? .int32 (c.read t))⟩
  | _, _, _ => unsupported (.extract c.name s.dtype)

end Series

end Tabular
