import Tabular.Conversion.Cast
import Tabular.Operator
import Tabular.Series.Pairing

/-!
# Truth tables over series

Rows of truth values are combined in the plain way, where a null operand makes the result null, or
in Kleene's, where a null stands for an unknown truth value and the result is null only if it
depends on it.
-/

namespace Tabular

/-- Kleene conjunction: false if either operand is. -/
def kleeneAnd : Option Bool → Option Bool → Option Bool
  | some false, _ => some false
  | _, some false => some false
  | some true, some true => some true
  | _, _ => none

/-- Kleene disjunction: true if either operand is. -/
def kleeneOr : Option Bool → Option Bool → Option Bool
  | some true, _ => some true
  | _, some true => some true
  | some false, some false => some false
  | _, _ => none

/-- A connective on two rows. -/
def Connective.onRows (c : Connective) (rows : Option Bool × Option Bool) : Option Bool :=
  match c with
  | and => onBoth (fun a b ↦ some (a && b)) rows
  | or => onBoth (fun a b ↦ some (a || b)) rows
  | kleeneAnd => Tabular.kleeneAnd rows.1 rows.2
  | kleeneOr => Tabular.kleeneOr rows.1 rows.2

/-- A bitwise operator on two rows of truth values. -/
def Bitwise.onFlags (b : Bitwise) : Option Bool × Option Bool → Option Bool :=
  onBoth fun x y ↦ some <|
    match b with
    | and => x && y
    | or => x || y
    | xor => x != y

/-- A bitwise operator on two integers. -/
def Bitwise.onInts {t : IntType} (b : Bitwise) (x y : FixedInt t) : FixedInt t :=
  match b with
  | and => x.bitAnd y
  | or => x.bitOr y
  | xor => x.bitXor y

namespace Series

/-- Both operands as truth values, at the length of the longer one. -/
def flagPairs (l r : Series) : Outcome (List (Option Bool × Option Bool)) := do
  let (l, r) ← l.spread r
  .ok ((← l.convertRows .boolean).zip (← r.convertRows .boolean))

/-- A connective between two series. -/
def connect (c : Connective) (l r : Series) : Outcome (List (Option Bool)) := do
  .ok ((← l.flagPairs r).map c.onRows)

/-- A bitwise operator between two series of truth values. -/
def bitwiseFlags (b : Bitwise) (l r : Series) : Outcome (List (Option Bool)) := do
  .ok ((← l.flagPairs r).map b.onFlags)

/-- A bitwise operator between two series of integers, in the integer type `t`. -/
def bitwiseInts (b : Bitwise) (t : IntType) (l r : Series) :
    Outcome (List (Option (FixedInt t))) := do
  let (l, r) ← l.spread r
  let ls ← l.convertRows (.integer t)
  let rs ← r.convertRows (.integer t)
  .ok ((ls.zip rs).map (onBoth fun x y ↦ some (b.onInts x y)))

end Series

end Tabular
