import Tabular.Expr.Evaluate.Aggregate

/-!
# Requests to groups

Under a grouping, an expression is split into reductions that are computed group by group and a
rest that is evaluated on their results. `Expr.collect` finds the reductions, as *requests*. A
request says what is evaluated over the whole frame beforehand, how the rows of each group are
reduced, and which node the results stand for.

An expression over columns that no reduction encloses is collected into lists.
-/

namespace Tabular

/-- One reduction per group. -/
structure AggRequest where
  /-- What is evaluated over the frame before grouping; without it only the size of the group
  counts. -/
  input : Option Expr
  reduction : Aggregation
  /-- The node whose value the results are. -/
  owner : Expr

namespace AggRequest

/-- The request for the lists of an expression's values. -/
def list (e : Expr) : AggRequest := ⟨some e, .collectList, e⟩

/-- The request for the sizes of the groups. -/
def size (e : Expr) : AggRequest := ⟨none, .count true, e⟩

end AggRequest

namespace AggFunction

/-- The input of a reduction: extrema of floating-point numbers leave NaNs out. -/
def preparedInput (f : AggFunction) (input : Expr) : Outcome Expr :=
  if f.isMinOrMax && input.dtype.isFloating then
    Expr.build input.dtype (.unaryFunction .maskNans) [input]
  else .ok input

/-- The request of a reduction node, from the requests of its child. -/
def collectNode (f : AggFunction) (node : Expr) (inner : List AggRequest) :
    Outcome (List AggRequest) :=
  match inner with
  | [r] => do
    let reduction ← f.request node.children
    let input ← r.input.mapM f.preparedInput
    .ok [⟨input, reduction, node⟩]
  | inner => unsupported (.aggregationInputs f.name inner.length)

end AggFunction

namespace Expr

/-- The requests of a node below `depth` reductions, given those of its children as a function of
their depth. -/
def collectNode (depth : Nat) (e : Expr) (inner : Nat → List (Outcome (List AggRequest))) :
    Outcome (List AggRequest) :=
  let child (depth i : Nat) : Outcome (List AggRequest) :=
    ((inner depth)[i]?).getD (.error (.malformed e.kind.name))
  match e.kind with
  | .col _ => .ok [.list e]
  | .literal _ => .ok []
  | .literalColumn _ => .ok []
  | .len => .ok [.size e]
  | .cast => child depth 0
  | .unaryFunction f =>
    if f.isGroupUnsupported then unsupported (.grouped f.name)
    -- Below a reduction the node is evaluated over the whole frame, so its children are not
    -- searched.
    else if depth = 1 then .ok [.list e]
    else child depth 0
  | .binOp _ =>
    if depth = 1 then .ok [.list e]
    else do
      let left ← child depth 0
      let right ← child depth 1
      let requests := left ++ right
      -- If nothing but lists is asked for below, or nothing at all, the node is collected as a
      -- whole.
      .ok (if requests.all (·.reduction.isCollectList) then [.list e] else requests)
  | .agg f =>
    if 1 ≤ depth then unsupported .nestedAggregation
    else if f.propagatesNans then unsupported (.groupedNanPropagation f.name)
    else do f.collectNode e (← child (depth + 1) 0)
  | k => unsupported (.grouped k.name)

mutual

/-- The requests of an expression that stands below `depth` reductions. -/
def collect (e : Expr) (depth : Nat) : Outcome (List AggRequest) :=
  match e with
  | node d k children => collectNode depth (node d k children) fun depth ↦
      collectAll children depth

/-- The requests of each of the expressions. -/
def collectAll (es : List Expr) (depth : Nat) : List (Outcome (List AggRequest)) :=
  match es with
  | [] => []
  | c :: cs => collect c depth :: collectAll cs depth

end

end Expr

end Tabular
