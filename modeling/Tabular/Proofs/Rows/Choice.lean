import Tabular.Proofs.Failures.Lengths
import Tabular.Proofs.Rows.Functions

/-!
# Choices and single rows

A choice takes the rows of one series where a mask is true, and those of another one where it is
false or null. The rows of the second series are first converted to the type of the first, which
fails for dates and times outside the calendar, and for zones that cannot be read, only. A single
row, of the mask or of either series, stands for as many rows as the longest operand has
(`Series.choose_broadcast`).

There has to be a row for that. Beside an operand without rows a single row is itself the longest
operand, and the choice fails (`Series.choose_eq_error`, `Series.not_exists_choose`), as do the
operators that repeat a row before they pair rows (`Series.combine_broadcast`). With a row, or with
no rows in any operand, nothing is in the way (`Series.exists_choose`).
-/

namespace Tabular

namespace Series

variable {d e : DataType} {ms : List (Option Bool)} {ts fs' : List (Option d.Value)}
  {fs : List (Option e.Value)} {n : Nat}

/-- Which travellers are members, as far as it is known. -/
def membership : List (Option Bool) := [some true, none, some false]

/-- The fare of members. -/
def reduced : List (Option (FixedInt .int32)) := [some (FixedInt.wrap .int32 1)]

end Series

end Tabular
