import Tabular.Conversion.Cast
import Tabular.Operator
import Tabular.Series.Pairing

/-!
# Comparing series

Operands of different types are first brought to a common one. Values are compared in their total
order, so a NaN equals itself and `-0.0` is below `0.0`.
-/

namespace Tabular

namespace DataType

/-- The type in which two numeric or two text types are compared. -/
def common? (l r : DataType) : Option DataType :=
  match l, r with
  | text _, text _ => some utf8
  | float s, float t => if s.hasArithmetic && t.hasArithmetic then some float64 else none
  | float s, integer _ => if s.hasArithmetic then some float64 else none
  | integer _, float t => if t.hasArithmetic then some float64 else none
  | integer a, integer b =>
    some <|
      if a.signed = b.signed then if b.width ≤ a.width then l else r
      else if (if a.signed then b.width else a.width) < 64 then int64
      else float64
  | _, _ => none

/-- Whether the type is one of lists. -/
def isList : DataType → Bool
  | list _ => true
  | _ => false

end DataType

/-- The truth of a comparison from the order of two rows; nothing if a null decides. -/
def Comparison.holds (c : Comparison) (o : Ordering) : Bool :=
  match c with
  | eq => o == .eq
  | nullEq => o == .eq
  | ne => o != .eq
  | nullNe => o != .eq
  | lt => o == .lt
  | le => o != .gt
  | gt => o == .gt
  | ge => o != .lt

/-- Whether the comparison treats null as a value. -/
def Comparison.nullAware : Comparison → Bool
  | nullEq => true
  | nullNe => true
  | _ => false

/-- A comparison of two rows of a type. -/
def Comparison.onRows (c : Comparison) (d : DataType) :
    Option d.Value × Option d.Value → Option Bool :=
  if c.nullAware then
    fun (a, b) ↦ some (c.holds (compareRows .before (d.compareValues .before) a b))
  else onBoth fun a b ↦ some (c.holds (d.compareValues .before a b))

namespace Series

/-- Both series in a common type, which is the left one's if there is no better. -/
def coerce (l r : Series) : Outcome (Series × Series) :=
  if l.dtype = r.dtype then .ok (l, r)
  else do
    let target := (l.dtype.common? r.dtype).getD l.dtype
    .ok (← l.convert target, ← r.convert target)

/-- The comparison of two series. Lists are not compared. -/
def compare (c : Comparison) (l r : Series) : Outcome (List (Option Bool)) := do
  let (l, r) ← l.coerce r
  let pairs ← pairRows l.rows (← r.convertRows l.dtype)
  if l.dtype.isList then kernelFault (.comparison l.dtype)
  else .ok (pairs.map (c.onRows l.dtype))

end Series

end Tabular
