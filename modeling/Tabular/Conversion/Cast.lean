import Tabular.Conversion.Table

/-!
# Casts

A cast is a conversion that an expression may ask for. `DataType.canCast` is the capability table:
each type casts to itself and the null type to every type; numbers and truth values cast among
themselves; numbers cast to text and text to numbers and other layouts; dates and timestamps cast
among themselves, durations among themselves, and each of them to the integers that can hold counts
of its ticks.

The table is narrower than that of the conversions (`DataType.converts`), and both may fail over the
rows: what a cast gives, if it gives anything, has the type that was asked for
(`Series.cast_dtype`).
-/

namespace Tabular

namespace DataType

/-- The families of types between which an expression may cast. -/
def sameFamily (s d : DataType) : Bool :=
  ((s.isNumeric || s = .boolean) && (d.isNumeric || d = .boolean)) ||
  (s.isText && (d.isNumeric || d.isText)) ||
  (s.isNumeric && d.isText) ||
  (match s, d with
    | timestamp .., timestamp .. => true
    | timestamp .., date32 => true
    | timestamp .., date64 => true
    | date32, timestamp .. => true
    | date32, date64 => true
    | date64, timestamp .. => true
    | date64, date32 => true
    | duration _, duration _ => true
    | _, _ => false) ||
  (s.isTemporal && d.isInteger)

/-- Whether a column of type `s` may be cast to `d`. -/
def canCast (s d : DataType) : Bool :=
  s = d || s = .null || (sameFamily s d && s.converts d)

end DataType

namespace Series

/-- The series cast to type `d`. -/
def cast (s : Series) (d : DataType) : Outcome Series :=
  if s.dtype = d then .ok s
  else if s.dtype.canCast d then s.convert d
  else unsupported (.cast s.dtype d)

/-- What is converted has the type that was asked for. -/
theorem convert_dtype {s t : Series} {d : DataType} (h : s.convert d = .ok t) : t.dtype = d := by
  unfold convert at h
  cases hr : s.convertRows d with
  | error e => rw [hr] at h; cases h
  | ok rows => rw [hr] at h; cases h; rfl

/-- **A cast that succeeds gives the type that was asked for.** -/
theorem cast_dtype {s t : Series} {d : DataType} (h : s.cast d = .ok t) : t.dtype = d := by
  unfold cast at h
  split at h
  · cases h; assumption
  · split at h
    · exact convert_dtype h
    · cases h

end Series

end Tabular
