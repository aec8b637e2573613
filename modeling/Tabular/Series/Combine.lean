import Tabular.Series.Arithmetic
import Tabular.Series.Compare
import Tabular.Series.Logic

/-!
# Combining two series

`Series.combine op out` applies a binary operator. It is defined exactly on the types that
`BinaryOp.supports` lists; the branches below are those of that table.
-/

namespace Tabular

namespace Series

/-- A binary operator on series of types that the operator supports. -/
def apply (op : BinaryOp) (out : DataType) (l r : Series) : Outcome Series :=
  match op with
  | .comparison c => do .ok (ofFlags (← l.compare c r))
  | .logical c => do .ok (ofFlags (← l.connect c r))
  | .bitwise b =>
    match out with
    | .integer t => do .ok ⟨.integer t, ← l.bitwiseInts b t r⟩
    | _ => do .ok (ofFlags (← l.bitwiseFlags b r))
  | .arithmetic a =>
    if (op.temporalResult? l.dtype r.dtype).isSome then l.shiftTicks a out r
    else l.calculate a out r

/-- The series of `l op r`, of type `out`. -/
def combine (op : BinaryOp) (out : DataType) (l r : Series) : Outcome Series :=
  if op.supports out l.dtype r.dtype then l.apply op out r
  else unsupported (.binary op.name l.dtype r.dtype out)

end Series

end Tabular
