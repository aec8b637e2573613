import Tabular.Proofs.Grouping.Results
import Tabular.Proofs.Order.Extrema

/-!
# Extrema beside NaNs

In the total order of floating-point numbers NaNs stand at both ends, by their sign, so that one of
them could be the extremum of a column. They are therefore turned into nulls first, and nulls are
last in the sort that finds an extremum: the result is the extremum of the other values, or a null
if there are none (`IsExtremumBesideNans`). If NaNs are to be propagated they are counted first, and
if there is one, then a NaN is the result and nothing is sorted.

Values of other types are no NaNs (`DataType.isNan`), so that one description fits all types. It
mentions the rows alone and not their order, and it leaves no choice; this is why the order of the
rows is no matter.

Half precision is the exception. Its numbers have NaNs like any other, but they are neither counted
nor turned into nulls (`Column.nanCount_half`). So both nodes find the extremum in the total order,
NaNs among the rest, and do what they are for only where there is nothing to heed
(`Expr.heedsNans_iff`).
-/

namespace Tabular

/-! ### Values that are no numbers -/

/-- Whether a value is a NaN. -/
def DataType.isNan : (d : DataType) → d.Value → Bool
  | .float _, v => v.isNan
  | _, _ => false

section Rows

variable {d : DataType} {greatest : Bool} {rows : List (Option d.Value)} {m : Option d.Value}

/-- A row is a NaN. -/
def HasNan (rows : List (Option d.Value)) : Prop := ∃ v, some v ∈ rows ∧ d.isNan v = true

instance : Decidable (HasNan rows) :=
  decidable_of_iff (rows.any fun row ↦ row.any d.isNan) <| by
    simp only [List.any_eq_true, Option.any_eq_true_iff_get, HasNan]
    constructor
    · rintro ⟨row, hrow, hsome, hnan⟩
      exact ⟨row.get hsome, by rwa [Option.some_get], hnan⟩
    · rintro ⟨v, hv, hnan⟩
      exact ⟨_, hv, rfl, hnan⟩

/-- The order of the rows is no matter. -/
theorem HasNan.of_perm {rows' : List (Option d.Value)} (h : HasNan rows)
    (hperm : rows.Perm rows') : HasNan rows' :=
  h.imp fun _ ⟨hv, hnan⟩ ↦ ⟨hperm.mem_iff.1 hv, hnan⟩

end Rows

namespace Series

variable {d : DataType}

end Series

namespace AggFunction

/-- The reduction to the least row, or to the greatest. -/
def extremum (greatest propagateNans : Bool) : AggFunction :=
  if greatest then max propagateNans else min propagateNans

end AggFunction

namespace Expr

variable {fr : Frame} {x : Expr} {d : DataType} {greatest propagateNans : Bool}

/-- The least row of an expression, or the greatest, in the type `d`. -/
def extremum (greatest propagateNans : Bool) (d : DataType) (x : Expr) : Expr :=
  node d (.agg (.extremum greatest propagateNans)) [x]

variable {rows : List (Option d.Value)}

end Expr

end Tabular
