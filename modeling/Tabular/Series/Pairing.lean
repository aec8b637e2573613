import Tabular.Series

/-!
# Pairing rows

Two operands are paired row by row; a single row stands for as many as the other operand has.

There are two ways to do so, which differ only for lengths that do not fit. `pairRows` gives as
many pairs as the operand that is not a single row has, be it none at all. `spread` repeats rows up
to the length of the longer operand, and so cannot pair one row with none.
-/

namespace Tabular

/-- The pairs of rows of two operands. -/
def pairRows {α β : Type} (as : List α) (bs : List β) : Outcome (List (α × β)) :=
  if as.length = bs.length then .ok (as.zip bs)
  else
    match as, bs with
    | [a], bs => .ok (bs.map (a, ·))
    | as, [b] => .ok (as.map (·, b))
    | as, bs => invalid (.operandLengths as.length bs.length)

/-- Both operands at the length of the longer one. -/
def Series.spread (l r : Series) : Outcome (Series × Series) := do
  let n := max l.length r.length
  .ok (← l.broadcast n, ← r.broadcast n)

/-- A function of two values on rows: null if either is. -/
def onBoth {α β γ : Type} (f : α → β → Option γ) : Option α × Option β → Option γ
  | (some a, some b) => f a b
  | _ => none

end Tabular
