import Tabular.Conversion.Text
import Tabular.Text.Quoted
import Tabular.Text.Record

/-!
# Printed series

The printed form of a series, as literal columns show it: the kind of series, then one line for
each row between brackets. Of more than twenty rows the middle ones are left out, and a line tells
how many they are.
-/

namespace Tabular

namespace DataType

/-- The kind of series that holds the type. -/
def seriesKind : DataType → String
  | null => "NullArray"
  | boolean => "BooleanArray"
  | text .utf8 => "StringArray"
  | text .largeUtf8 => "LargeStringArray"
  | text .utf8View => "StringViewArray"
  | list _ => "ListArray"
  | d => "PrimitiveArray<" ++ d.name ++ ">"

/-- What stands for a number of ticks that names no time. -/
def unprintable (d : DataType) (ticks : Int) : String :=
  "Cast error: Failed to convert " ++ toString ticks ++ " to temporal for " ++ d.name

end DataType

/-- The text of a timestamp whose zone is no offset: the time without a zone, and a remark. -/
def unknownZoneText? (unit : TimeUnit) (zone : String) (ticks : Int) : Option String :=
  if (Calendar.offset? zone).isSome then none
  else (timestampText? false unit none ticks).map (· ++ " (Unknown Time Zone '" ++ zone ++ "')")

namespace Series

/-- At most this many rows are printed at either end. -/
def printedEnd : Nat := 10

/-- The lines of the rows, with the middle of a long series left out. -/
def printedLines (lines : List String) : List String :=
  if lines.length ≤ 2 * printedEnd then lines
  else
    lines.take printedEnd ++
      ["  ..." ++ toString (lines.length - 2 * printedEnd) ++ " elements...,\n"] ++
      lines.drop (lines.length - printedEnd)

/-- The printed form of rows whose values are printed by `value`. -/
def printedRows {α : Type} (d : DataType) (value : α → String) (rows : List (Option α)) : String :=
  let line (row : Option α) : String :=
    "  " ++ (match row with
      | none => "null"
      | some v => value v) ++ ",\n"
  d.seriesKind ++ "\n[\n" ++ String.join (printedLines (rows.map line)) ++ "]"

/-- The printed form of the rows of a type. -/
def printedAs : (d : DataType) → List (Option d.Value) → String
  | .null, rows => DataType.null.seriesKind ++ "(" ++ toString rows.length ++ ")"
  | .boolean, rows => printedRows .boolean Text.flag rows
  | .integer t, rows => printedRows (.integer t) (fun i ↦ toString i.toInt) rows
  | .float t, rows => printedRows (.float t) FloatStyle.printed.formatStored rows
  | .text t, rows => printedRows (.text t) Text.quoted rows
  | .date32, rows => printedRows .date32 (fun i ↦
      if Calendar.dateInRange i.toInt then Calendar.dateText i.toInt
      else DataType.date32.unprintable i.toInt) rows
  | .date64, rows => printedRows .date64 (fun i ↦
      match Calendar.DateTime.ofTicks? 1000 i.toInt with
      | some t => Calendar.dateText t.days
      | none => DataType.date64.unprintable i.toInt) rows
  | .timestamp unit none, rows => printedRows (.timestamp unit none) (fun i ↦
      (timestampText? false unit none i.toInt).getD
        ((DataType.timestamp unit none).unprintable i.toInt)) rows
  | .timestamp unit (some zone), rows => printedRows (.timestamp unit (some zone)) (fun i ↦
      ((timestampText? false unit (some zone) i.toInt).orElse fun _ ↦
        unknownZoneText? unit zone i.toInt).getD "null") rows
  | .duration unit, rows => printedRows (.duration unit) (fun i ↦ toString i.toInt) rows
  | .list item, rows => printedRows (.list item) (printedAs item) rows

/-- The printed form of a series. -/
def printed (s : Series) : String := printedAs s.dtype s.rows

end Series

end Tabular
