import Tabular.Expr.Build
import Tabular.Frame

/-!
# Reductions of columns

The value of a reduction node on its evaluated child, and the reduction that stands for it in the
rows of one group.
-/

namespace Tabular

/-- Where an expression is evaluated. Reductions are evaluated over frames only: of groups, their
values come from a mapping. -/
inductive Context where
  | frame
  | groupBy
  | rolling
deriving DecidableEq, Repr, Inhabited

/-- The context's name in messages. -/
def Context.name : Context → String
  | frame => "frame"
  | groupBy => "groupby"
  | rolling => "rolling"

namespace AggFunction

/-- The reduction of the rows of a group, for a node with the given children. -/
def request (f : AggFunction) (children : List Expr) : Outcome Aggregation :=
  match f with
  | min _ => .ok .min
  | max _ => .ok .max
  | median => .ok .median
  | nUnique => .ok (.nUnique true)
  | first => .ok (.nthElement 0 true)
  | last => .ok (.nthElement (-1) true)
  | mean => .ok .mean
  | sum => .ok .sum
  | count => .ok (.count false)
  | std ddof => .ok (.std ddof)
  | var ddof => .ok (.var ddof)
  | quantile interpolation =>
    match children[1]? with
    | some q => do .ok (.quantile (← quantileOf q) interpolation)
    | none => .error (.malformed "Agg")

/-- The value on the evaluated child, cast to the declared type `d`. -/
def onColumn (f : AggFunction) (d : DataType) (children : List Expr) (c : Column) :
    Outcome Column := do
  if f.propagatesNans && 0 < c.nanCount then
    .ok { series := ← (Series.single .float64 (some (Binary.nan false))).cast d }
  else
    let input := if f.isMinOrMax then c.maskNans.series else c.series
    let out ← input.reduce (← f.request children)
    .ok { series := ← out.cast d }

end AggFunction

end Tabular
