import Tabular.Binary.Arithmetic
import Tabular.Conversion.Cast
import Tabular.Operator
import Tabular.Series.Pairing

/-!
# Arithmetic on series

Numbers are first brought to the type of the result, except for true division, which is done in
double precision. Integer arithmetic wraps around, and division by an integer zero gives null.
Sums and differences of timestamps and durations must fit their 64 bits.
-/

namespace Tabular

namespace Arithmetic

/-- The operation on integers. -/
def onInts {t : IntType} (op : Arithmetic) (a b : FixedInt t) : Option (FixedInt t) :=
  match op with
  | add => some (a.add b)
  | sub => some (a.sub b)
  | mul => some (a.mul b)
  | div => a.truncDiv? b
  | trueDiv => a.truncDiv? b
  | floorDiv => a.floorDiv? b
  | floorMod => a.floorMod? b

/-- The operation on floating-point numbers. -/
def onFloats {t : FloatType} (op : Arithmetic) (a b : Binary t) : Binary t :=
  match op with
  | add => a.add b
  | sub => a.sub b
  | mul => a.mul b
  | div => a.div b
  | trueDiv => a.div b
  | floorDiv => ((Binary.convert .double a).floorDiv (Binary.convert .double b)).convert t
  | floorMod => ((Binary.convert .double a).floorMod (Binary.convert .double b)).convert t

/-- Whether operands are paired like those of a division with a rule of its own for zero. -/
def spreads (op : Arithmetic) (out : DataType) : Bool :=
  match op with
  | floorDiv => true
  | floorMod => true
  | div => !out.isFloating
  | _ => false

end Arithmetic

/-- A sum or difference of ticks, which must fit. -/
def Arithmetic.onTicks (op : Arithmetic) (a b : Int) : Outcome (FixedInt .int64) :=
  match FixedInt.ofInt? .int64 (if op = .sub then a - b else a + b) with
  | some ticks => .ok ticks
  | none => kernelFault .overflow

namespace Series

/-- The pairs of rows of the operands of an operation, in type `d`. -/
def operandPairs (op : Arithmetic) (d : DataType) (l r : Series) :
    Outcome (List (Option d.Value × Option d.Value)) :=
  if op.spreads d then do
    let (l, r) ← l.spread r
    .ok ((← l.convertRows d).zip (← r.convertRows d))
  else do
    pairRows (← l.convertRows d) (← r.convertRows d)

/-- Arithmetic on numbers, with a result of the numeric type `out`. -/
def calculate (op : Arithmetic) (out : DataType) (l r : Series) : Outcome Series :=
  match op, out with
  | .trueDiv, out => do
    let pairs ← l.operandPairs .trueDiv .float64 r
    (⟨.float64, pairs.map (onBoth fun a b ↦ some (a.div b))⟩ : Series).convert out
  | op, .integer t => do
    let pairs ← l.operandPairs op (.integer t) r
    .ok ⟨.integer t, pairs.map (onBoth op.onInts)⟩
  | op, .float t => do
    let pairs ← l.operandPairs op (.float t) r
    .ok ⟨.float t, pairs.map (onBoth fun a b ↦ some (op.onFloats a b))⟩
  | _, out => kernelFault (.conversion l.dtype out)

/-- The rows of a timestamp or duration series as ticks. -/
def ticks (s : Series) : List (Option Int) :=
  match s.dtype, s.rows with
  | .timestamp _ _, rows => rows.map (Option.map FixedInt.toInt)
  | .duration _, rows => rows.map (Option.map FixedInt.toInt)
  | _, rows => rows.map fun _ ↦ none

/-- The rows of ticks as a series of a timestamp or duration type. -/
def ofTicks (d : DataType) (ticks : List (Option (FixedInt .int64))) : Outcome Series :=
  match d with
  | .timestamp unit zone => .ok ⟨.timestamp unit zone, ticks⟩
  | .duration unit => .ok ⟨.duration unit, ticks⟩
  | d => kernelFault (.conversion .int64 d)

/-- Sums and differences of timestamps and durations, with a result of type `out`. -/
def shiftTicks (op : Arithmetic) (out : DataType) (l r : Series) : Outcome Series := do
  let pairs ← pairRows l.ticks r.ticks
  let rows ← pairs.mapM fun
    | (some a, some b) => (op.onTicks a b).map some
    | _ => .ok none
  ofTicks out rows

end Series

end Tabular
