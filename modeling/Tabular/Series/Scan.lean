import Tabular.Binary.Arithmetic
import Tabular.Series

/-!
# Running totals

An inclusive scan gives at every row the fold of the values up to and including it. Null rows stay
null and do not interrupt the fold.

The fold starts at the first value and stays in the type of the values. Which type that is to be is
settled before (`Scan.accumulator`): most narrow integers are widened for sums and products, and all
integers wrap around.
-/

namespace Tabular

/-- The operation of a running total. -/
inductive Scan where
  | min
  | max
  | sum
  | product
deriving DecidableEq, Repr

namespace Scan

/-- The operation's name. -/
def name : Scan → String
  | min => "Min"
  | max => "Max"
  | sum => "Sum"
  | product => "Product"

/-- The operation on integers, wrapping around. -/
def onInts {t : IntType} (op : Scan) (total v : FixedInt t) : FixedInt t :=
  match op with
  | min => if v.toInt < total.toInt then v else total
  | max => if total.toInt < v.toInt then v else total
  | sum => total.add v
  | product => total.mul v

/-- The operation on floating-point numbers; extrema are those of the total order. -/
def onFloats {t : FloatType} (op : Scan) (total v : Binary t) : Binary t :=
  match op with
  | min => if v.orderKey < total.orderKey then v else total
  | max => if total.orderKey < v.orderKey then v else total
  | sum => total.add v
  | product => total.mul v

/-- The type in which totals over a type are kept. -/
def accumulator (op : Scan) (d : DataType) : DataType :=
  match op, d with
  | sum, .integer .int8 => .int64
  | sum, .integer .uint8 => .int64
  | sum, .integer .int16 => .int64
  | sum, .integer .uint16 => .int64
  | sum, .boolean => .integer .uint32
  | product, .integer .int8 => .int64
  | product, .integer .uint8 => .int64
  | product, .integer .int16 => .int64
  | product, .integer .uint16 => .int64
  | product, .integer .int32 => .int64
  | product, .integer .uint32 => .int64
  | product, .boolean => .int64
  | _, d => d

end Scan

/-- The fold of the values so far at every row; nulls stay. -/
def scanRows {α : Type} (f : α → α → α) : Option α → List (Option α) → List (Option α)
  | _, [] => []
  | total, none :: rows => none :: scanRows f total rows
  | none, some v :: rows => some v :: scanRows f (some v) rows
  | some total, some v :: rows => some (f total v) :: scanRows f (some (f total v)) rows

/-- The running totals of a series of numbers. -/
def Series.scan (op : Scan) (s : Series) : Outcome Series :=
  match s with
  | ⟨.integer t, rows⟩ => .ok ⟨.integer t, scanRows op.onInts none rows⟩
  | ⟨.float t, rows⟩ =>
    if t.hasArithmetic then .ok ⟨.float t, scanRows op.onFloats none rows⟩
    else unsupported (.undefinedOver ("cumulative " ++ op.name) (.float t))
  | ⟨d, _⟩ => unsupported (.undefinedOver ("cumulative " ++ op.name) d)

end Tabular
