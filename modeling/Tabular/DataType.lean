import Tabular.Power
import Tabular.Text.Quoted
import Tabular.Text.Record

/-!
# Data types of columns

The logical type of a column: the null type, booleans, fixed-width integers, binary floating
point, text in three storage layouts, dates, timestamps with or without a zone, durations, and
lists of any of these.

Columns of other types exist elsewhere and are not represented here: decimals, times of day,
intervals, bytes, structs, maps, unions, dictionaries and other encodings, lists with 64-bit
offsets, list views and lists of fixed size. Floating point comes in three precisions, of which
half precision is only stored: it has an order and conversions, but the library does not calculate
with it and does not look for its NaNs (`FloatType.hasArithmetic`).

The text of a type (`DataType.name`) is part of the library's output: error messages and the
printed form of expressions show it.
-/

namespace Tabular

/-- The tick of a timestamp or duration. -/
inductive TimeUnit where
  | second
  | millisecond
  | microsecond
  | nanosecond
deriving DecidableEq, Repr, Hashable, Inhabited

namespace TimeUnit

/-- Ticks in one second. -/
def perSecond : TimeUnit → Nat
  | second => 1
  | millisecond => 1000
  | microsecond => 1000000
  | nanosecond => 1000000000

/-- Every unit has a tick in the second. -/
theorem perSecond_pos (u : TimeUnit) : 0 < u.perSecond := by
  cases u <;> decide

/-- The unit spelled out, as messages show it. -/
def name : TimeUnit → String
  | second => "Second"
  | millisecond => "Millisecond"
  | microsecond => "Microsecond"
  | nanosecond => "Nanosecond"

end TimeUnit

/-- A fixed-width integer type. -/
inductive IntType where
  | int8
  | int16
  | int32
  | int64
  | uint8
  | uint16
  | uint32
  | uint64
deriving DecidableEq, Repr, Hashable, Inhabited

namespace IntType

/-- The number of bits of a value. -/
def width : IntType → Nat
  | int8 | uint8 => 8
  | int16 | uint16 => 16
  | int32 | uint32 => 32
  | int64 | uint64 => 64

/-- Signed types hold negative values too. -/
def signed : IntType → Bool
  | int8 | int16 | int32 | int64 => true
  | uint8 | uint16 | uint32 | uint64 => false

/-- The least value of the type. -/
def min (t : IntType) : Int := if t.signed then -(twoTo (t.width - 1) : Int) else 0

/-- The greatest value of the type. -/
def max (t : IntType) : Int :=
  (twoTo (if t.signed then t.width - 1 else t.width) : Int) - 1

/-- The type's name. -/
def name : IntType → String
  | int8 => "Int8"
  | int16 => "Int16"
  | int32 => "Int32"
  | int64 => "Int64"
  | uint8 => "UInt8"
  | uint16 => "UInt16"
  | uint32 => "UInt32"
  | uint64 => "UInt64"

/-- Nought fits from below into every type. -/
theorem min_le_zero (t : IntType) : t.min ≤ 0 := by
  cases t <;> decide

/-- Nought fits from above into every type. -/
theorem zero_le_max (t : IntType) : 0 ≤ t.max := by
  cases t <;> decide

/-- One fits into every type. -/
theorem one_le_max (t : IntType) : 1 ≤ t.max := by
  cases t <;> decide

/-- A type is unsigned, or has one more negative integer than positive ones. -/
theorem min_eq (t : IntType) : t.min = 0 ∨ t.min = -t.max - 1 := by
  cases t <;> decide

/-- A type holds as many values as its bits have patterns. -/
theorem max_sub_min (t : IntType) : t.max - t.min + 1 = twoTo t.width := by
  cases t <;> decide

end IntType

/-- A binary floating-point type. -/
inductive FloatType where
  | half
  | single
  | double
deriving DecidableEq, Repr, Hashable, Inhabited

namespace FloatType

/-- The number of bits of a value. -/
def width : FloatType → Nat
  | half => 16
  | single => 32
  | double => 64

/-- The number of stored fraction bits; the significand has one more. -/
def fractionBits : FloatType → Nat
  | half => 10
  | single => 23
  | double => 52

/-- The exponent of the unit of the least positive value. -/
def minExponent : FloatType → Int
  | half => -24
  | single => -149
  | double => -1074

/-- The type's name. -/
def name : FloatType → String
  | half => "Float16"
  | single => "Float32"
  | double => "Float64"

/-- Whether the library calculates with the type. Half precision is stored, compared and converted
only. -/
def hasArithmetic : FloatType → Bool
  | half => false
  | single => true
  | double => true

end FloatType

/-- A storage layout of text. All three hold the same values. -/
inductive TextType where
  | utf8
  | largeUtf8
  | utf8View
deriving DecidableEq, Repr, Hashable, Inhabited

/-- The layout's name. -/
def TextType.name : TextType → String
  | utf8 => "Utf8"
  | largeUtf8 => "LargeUtf8"
  | utf8View => "Utf8View"

/-- The logical type of a column. -/
inductive DataType where
  /-- The type of a column that holds nulls only. -/
  | null
  | boolean
  | integer (t : IntType)
  | float (t : FloatType)
  | text (t : TextType)
  /-- Days since 1970-01-01. -/
  | date32
  /-- Milliseconds since 1970-01-01. -/
  | date64
  /-- Ticks since 1970-01-01T00:00:00 UTC; a zone is a fixed offset such as `+02:00`. -/
  | timestamp (unit : TimeUnit) (zone : Option String)
  | duration (unit : TimeUnit)
  | list (item : DataType)
deriving DecidableEq, Repr, Hashable, Inhabited

namespace DataType

/-- Signed 64-bit integers, the type of counts. -/
abbrev int64 : DataType := .integer .int64

/-- Unsigned 64-bit integers. -/
abbrev uint64 : DataType := .integer .uint64

/-- Double precision, the type of statistics. -/
abbrev float64 : DataType := .float .double

/-- Text in the standard layout. -/
abbrev utf8 : DataType := .text .utf8

/-- The type's text in messages and printed expressions. -/
def name : DataType → String
  | null => "Null"
  | boolean => "Boolean"
  | integer t => t.name
  | float t => t.name
  | text t => t.name
  | date32 => "Date32"
  | date64 => "Date64"
  | timestamp unit none => Text.application "Timestamp" [unit.name, "None"]
  | timestamp unit (some zone) =>
    Text.application "Timestamp" [unit.name, Text.application "Some" [Text.quoted zone]]
  | duration unit => Text.application "Duration" [unit.name]
  | list item => Text.application "List" [Text.record "Field" [("name", Text.quoted "item"),
      ("data_type", item.name), ("nullable", Text.flag true), ("dict_id", "0"),
      ("dict_is_ordered", Text.flag false), ("metadata", "\x7b\x7d")]]

/-- Fixed-width integer types. -/
def isInteger : DataType → Bool
  | integer _ => true
  | _ => false

/-- Floating-point types. -/
def isFloating : DataType → Bool
  | float _ => true
  | _ => false

/-- Numbers that the library calculates with: integers and floating point of these precisions. -/
def isNumeric : DataType → Bool
  | integer _ => true
  | float t => t.hasArithmetic
  | _ => false

theorem isNumeric_of_isInteger {d : DataType} (h : d.isInteger = true) : d.isNumeric = true := by
  cases d with
  | integer _ => rfl
  | _ => cases h

/-- Text in any layout. -/
def isText : DataType → Bool
  | text _ => true
  | _ => false

/-- Dates, timestamps and durations. -/
def isTemporal : DataType → Bool
  | date32 | date64 | timestamp .. | duration _ => true
  | _ => false

/-- The zone of the timestamps that the type holds. -/
def zone? : DataType → Option String
  | timestamp _ zone => zone
  | list item => zone? item
  | _ => none

end DataType

end Tabular
