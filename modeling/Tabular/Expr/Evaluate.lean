import Tabular.Expr.Evaluate.Aggregate
import Tabular.Expr.Evaluate.Boolean
import Tabular.Expr.Evaluate.Text
import Tabular.Expr.Evaluate.Unary
import Tabular.Series.Combine
import Tabular.Series.Select

/-!
# Evaluation

`Expr.evaluate` gives the column of an expression over a frame. Children are evaluated in order and
the first failure is the failure of the node; a node looks only at the children that it needs.

A mapping holds columns that are known beforehand: an expression found in it is not evaluated.
Look-ups compare expressions by `Expr.same`, so a mapping holds one column for each expression, the
one that was inserted last (`Mapping.find?_insert_self`).
-/

namespace Tabular

/-- Columns of expressions that are known beforehand. -/
structure Mapping where
  entries : List (Expr × Column) := []

namespace Mapping

/-- The mapping that knows nothing. -/
def empty : Mapping := {}

/-- The column of an expression, if it is known. -/
def find? (m : Mapping) (e : Expr) : Option Column :=
  (m.entries.find? fun entry ↦ Expr.same entry.1 e).map Prod.snd

/-- The mapping with one column more; an earlier one of an equal expression is forgotten. -/
def insert (m : Mapping) (e : Expr) (c : Column) : Mapping :=
  ⟨(e, c) :: m.entries.filter fun entry ↦ !Expr.same entry.1 e⟩

/-- What was inserted last is found. -/
@[simp]
theorem find?_insert_self (m : Mapping) (e : Expr) (c : Column) :
    (m.insert e c).find? e = some c := by
  simp [find?, insert, Expr.same_refl]

end Mapping

namespace SortByOptions

/-- A flag for a key; a single one is for all. -/
def flagFor (flags : List Bool) (i : Nat) : Bool :=
  match flags with
  | [flag] => flag
  | flags => flags.getD i false

/-- The sort keys that the options describe. -/
def keys (o : SortByOptions) (n : Nat) : List SortKey :=
  (List.range n).map fun i ↦ ⟨flagFor o.descending i, flagFor o.nullsLast i⟩

end SortByOptions

namespace Kind

/-- The value of a filter: a mask of one row is for all rows, unless there is only one. -/
def filterColumn (values mask : Column) : Outcome Column := do
  let mask ← if mask.isScalar && !values.isScalar then mask.series.broadcast values.length
    else .ok mask.series
  match mask.rowsAs? .boolean with
  | some flags => do .ok (({ series := ← values.series.keep flags } : Column).sortedLike values)
  | none => invalid .filterMask

/-- The value of a kind that looks at all its children, on their columns. -/
def onColumns (k : Kind) (d : DataType) (columns : List Column) : Outcome Column :=
  match k, columns with
  | temporalFunction f, [c] => do .ok { series := ← (← f.onSeries c.series).cast d }
  | sort options, [c] => do
    let key : SortKey := ⟨options.descending, options.nullsLast⟩
    .ok { series := ← c.series.sort key options.stable, sorted := some (.ofKey key) }
  | sortBy options, values :: keys => do
    let order := options.keys keys.length
    .ok { series := ← values.series.sortBy (keys.map (·.series)) order options.stable }
  | gather, [values, indices] => do .ok { series := ← values.series.gather indices.series }
  | filter, [values, mask] => filterColumn values mask
  | cast, [c] => do .ok (({ series := ← c.series.cast d } : Column).sortedLike c)
  | ternary, [mask, truthy, falsy] => do
    .ok { series := ← Series.choose mask.series truthy.series falsy.series }
  | binOp op, [l, r] => do .ok { series := ← l.series.combine op d r.series }
  | k, _ => .error (.malformed k.name)

end Kind

namespace Expr

/-- The value of a node, given the values of its children. -/
def evaluateNode (f : Frame) (context : Context) (d : DataType) (k : Kind) (children : List Expr)
    (columns : List (Outcome Column)) : Outcome Column :=
  match k with
  | .literal v => do .ok { series := ← v.toSeries d }
  | .literalColumn stored => do .ok { series := ← stored.series.cast d }
  | .col name => f.column name
  | .len => do .ok { series := ← (Series.ofInt f.rows).cast d }
  | .booleanFunction g =>
    if children.all fun c ↦ g.readsChild c.dtype then do
      .ok { series := ← g.onColumns (← columns.mapM id) }
    else .ok { series := g.constant f.rows }
  | .stringFunction g => do .ok { series := ← g.onColumns d children columns }
  | .unaryFunction g =>
    match columns with
    | c :: _ => do g.onColumn d children columns (← c)
    | [] => .error (.malformed k.name)
  | .agg g =>
    if context = .frame then
      match columns with
      | c :: _ => do g.onColumn d children (← c)
      | [] => .error (.malformed k.name)
    else unsupported (.aggregationIn g.name context.name)
  | k => do k.onColumns d (← columns.mapM id)

mutual

/-- The column of an expression over a frame. -/
def evaluate (f : Frame) (context : Context) (m : Mapping) : Expr → Outcome Column
  | node d k children =>
    match m.find? (node d k children) with
    | some c => .ok c
    | none => evaluateNode f context d k children (evaluateAll f context m children)

/-- The columns of expressions over a frame. -/
def evaluateAll (f : Frame) (context : Context) (m : Mapping) : List Expr → List (Outcome Column)
  | [] => []
  | c :: cs => evaluate f context m c :: evaluateAll f context m cs

end

end Expr

end Tabular
