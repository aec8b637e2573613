import Tabular.Expr.Basic
import Tabular.Frame
import Tabular.Series.Combine
import Tabular.Series.Select

/-!
# Functions of one column

The values of these functions on the first child. Filling nulls takes the filler from the second
child: a literal is cast to the type of the column, anything else is evaluated.

Functions that keep the order of rows keep the column's claim about it.
-/

namespace Tabular

namespace UnaryFunction

/-- The filler of nulls, for a column of type `d`. -/
def filler (d : DataType) (children : List Expr) (columns : List (Outcome Column)) :
    Outcome Series :=
  match (children[1]?).bind Expr.literal?, columns[1]? with
  | some v, _ => v.toSeries d
  | none, some c => do .ok (← c).series
  | none, none => .error (.malformed "UnaryFunction")

/-- Whether the last row is marked as null. -/
def endsInNull (s : Series) : Bool := s.marked.getLast? = some false

/-- The value on the evaluated first child, with the declared type `d`. -/
def onColumn (f : UnaryFunction) (d : DataType) (children : List Expr)
    (columns : List (Outcome Column)) (c : Column) : Outcome Column :=
  match f with
  | math op => do .ok { series := ← (← c.series.cast d).math op }
  | dropNulls => .ok (({ series := c.series.dropNulls } : Column).sortedLike c)
  | fillNull => do .ok { series := ← c.series.fillNull (← filler c.dtype children columns) }
  | maskNans => .ok c.maskNans
  | round decimals => do
    .ok (({ series := ← c.series.round decimals } : Column).sortedLike c)
  | setSorted descending =>
    .ok { c with sorted := some (.ofKey ⟨descending, endsInNull c.series⟩) }
  | unique maintainOrder =>
    .ok <|
      if c.sorted.isSome then ({ series := c.series.unique true } : Column).sortedLike c
      else { series := c.series.unique maintainOrder }
  | cumMin _ => running .min c
  | cumMax _ => running .max c
  | cumProd _ => running .product c
  | cumSum _ => running .sum c
where
  /-- The running total of a column, in the type that holds it, cast to the declared type. -/
  running (op : Scan) (c : Column) : Outcome Column := do
    let input ← c.series.cast (op.accumulator c.dtype)
    .ok { series := ← (← input.scan op).cast d }

end UnaryFunction

namespace TemporalFunction

/-- The value on the evaluated child: a component, or the sum of multiples of several. -/
def onSeries (f : TemporalFunction) (s : Series) : Outcome Series :=
  match f.parts with
  | [(c, _)] => s.component c
  | parts => do
    let components ← parts.mapM fun (c, scale) ↦ do
      .ok (← (← s.component c).cast .int64, Series.ofInt scale)
    match components with
    | [] => .error (.malformed "TemporalFunction")
    | (first, scale) :: rest => do
      let start ← first.combine (.arithmetic .mul) .int64 scale
      rest.foldlM (fun total (part, scale) ↦ do
        total.combine (.arithmetic .add) .int64 (← part.combine (.arithmetic .mul) .int64 scale))
        start

end TemporalFunction

end Tabular
