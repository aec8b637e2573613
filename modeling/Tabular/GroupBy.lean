import Tabular.Expr.Collect
import Tabular.Expr.Named

/-!
# Grouping

A grouping splits the rows of a frame by equal keys and evaluates expressions once for each group.
It is planned before any data is seen: every expression is split into requests, and one that cannot
be split is refused.

The plan is carried out in three steps. Keys and the inputs of the requests are evaluated over the
whole frame. The rows of each group are reduced, and the results of a request form a column with
one row for each group. On these columns, each standing for the node that requested it, the rest of
every expression is evaluated.
-/

namespace Tabular

/-- A planned grouping. -/
structure GroupBy where
  keys : List NamedExpr
  aggs : List NamedExpr
  /-- Groups come in order of first appearance instead of key order. -/
  maintainOrder : Bool
  requests : List AggRequest

namespace AggRequest

/-- The rows of one group reduced. Without values only their number counts. -/
def reduceGroup (r : AggRequest) (values : Option Series) (group : List Nat) : Outcome Series :=
  match values with
  | some s => (s.select group).reduce r.reduction
  | none => (Series.nulls .null group.length).reduce r.reduction

/-- The rows of series of one type, one series after the other; `d` is the type if there are
none. -/
def stack (d : DataType) (parts : List Series) : Series :=
  match parts with
  | [] => .empty d
  | part :: _ => ⟨part.dtype, parts.flatMap fun s ↦ (s.rowsAs? part.dtype).getD []⟩

/-- The results of the request, one row for each group; `values` is the evaluated input. -/
def reduceGroups (r : AggRequest) (values : Option Series) (groups : List (List Nat)) :
    Outcome Series := do
  let parts ← groups.mapM (r.reduceGroup values)
  let stacked := stack ((values.map Series.dtype).getD .null) parts
  if r.reduction.isCollectList then .ok stacked else stacked.cast r.owner.dtype

end AggRequest

namespace GroupBy

/-- Plans a grouping. -/
def plan (keys aggs : List NamedExpr) (maintainOrder : Bool) : Outcome GroupBy := do
  let requests ← aggs.mapM fun a ↦ a.value.collect 0
  .ok ⟨keys, aggs, maintainOrder, requests.flatten⟩

/-- The groups of the rows of a frame by the evaluated keys. Without keys all rows are one group. -/
def groups (maintainOrder : Bool) (f : Frame) (keys : List Series) : Outcome (List (List Nat)) :=
  if keys.isEmpty then .ok [List.range f.rows] else Series.groupRows keys !maintainOrder

/-- The column that an expression gives over the frame, at the frame's length. -/
def evaluateFully (f : Frame) (e : Expr) : Outcome Series := do
  (← e.evaluate f .frame .empty).series.broadcast f.rows

/-- The name of the column of the results of a request. -/
def requestName (i : Nat) : String := "__request_" ++ toString i

/-- The frame of the results of the requests. -/
def resultFrame (results : List Series) (groupCount : Nat) : Outcome Frame :=
  if results.isEmpty then Frame.ofColumns [⟨"__groups", { series := .nulls .null groupCount }⟩]
  else Frame.ofColumns (results.zipIdx.map fun (s, i) ↦ ⟨requestName i, { series := s }⟩)

/-- The key series, at the frame's length. -/
def keySeries (g : GroupBy) (f : Frame) : Outcome (List Series) := do
  let columns ← g.keys.mapM fun k ↦ k.value.evaluate f .frame .empty
  columns.mapM fun c ↦ c.series.broadcast f.rows

/-- The results of the requests. -/
def results (g : GroupBy) (f : Frame) (groups : List (List Nat)) : Outcome (List Series) := do
  let inputs ← g.requests.mapM fun r ↦ r.input.mapM (evaluateFully f)
  (g.requests.zip inputs).mapM fun (r, input) ↦ r.reduceGroups input groups

/-- The results, each as the column of the node that requested it. -/
def mapping (g : GroupBy) (results : List Series) : Mapping :=
  (g.requests.zip results).foldl (fun m (r, s) ↦ m.insert r.owner { series := s }) .empty

/-- The key column of the grouped frame: each group has the key of its first row. -/
def keyColumn (groups : List (List Nat)) (k : NamedExpr) (s : Series) : NamedColumn :=
  ⟨k.name, { series := s.select (Series.representatives groups) }⟩

/-- The column that an expression gives on the results of the requests, at the number of groups. -/
def aggColumn (raw : Frame) (m : Mapping) (groupCount : Nat) (a : NamedExpr) :
    Outcome NamedColumn := do
  let c ← a.value.evaluate raw .groupBy m
  let c ← if c.length = groupCount then .ok c else do
    .ok { series := ← c.series.broadcast groupCount }
  .ok ⟨a.name, c⟩

/-- The grouped frame: the keys, then one column for each expression, and one row for each group. -/
def evaluate (g : GroupBy) (f : Frame) : Outcome Frame := do
  let keys ← g.keySeries f
  let groups ← groups g.maintainOrder f keys
  let results ← g.results f groups
  let raw ← resultFrame results groups.length
  let aggOutput ← g.aggs.mapM (aggColumn raw (g.mapping results) groups.length)
  Frame.ofColumns (List.zipWith (keyColumn groups) g.keys keys ++ aggOutput)

end GroupBy

end Tabular
