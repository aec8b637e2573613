import Tabular.Proofs.Requests.Basic

/-!
# Reductions below reductions

A value that depends on the rows of a group — another reduction, a running total, distinct rows,
rows without nulls — cannot be computed before the rows are grouped, so it has no place below a
reduction. `Expr.ReductionsClear` says that an expression has none there.

The search for requests refuses such nodes where it meets them, but it does not enter every part of
an expression. It stops at functions of one column and at binary operations below a reduction, and
of a function with several arguments it enters the first alone. `Expr.unentered` lists the parts
that it passes over.

What it enters is checked, no more and no less (`Expr.Collects.clearBelow_iff`, an induction on the
rules of the search with the number of reductions above). So an expression whose requests were found
has no misplaced node exactly when the parts that the search passed over have none
(`Expr.reductionsClear_iff`), and a sum of sums can get through
(`Expr.not_reductionsClear_sumOfShifted`).
-/

namespace Tabular

namespace Kind

/-- The number of leading children that the search for requests enters, below `depth` reductions. -/
def entered (k : Kind) (depth : Nat) : Nat :=
  match k with
  | cast => 1
  | unaryFunction _ => if depth = 1 then 0 else 1
  | binOp _ => if depth = 1 then 0 else 2
  | agg _ => 1
  | _ => 0

/-- The number of reductions above the children of a node that stands below `depth` of them. -/
def depthBelow (k : Kind) (depth : Nat) : Nat :=
  match k with
  | agg _ => depth + 1
  | _ => depth

end Kind

namespace Expr

mutual

/-- The parts of an expression below `depth` reductions that the search for requests passes over,
each with the number of reductions above it. -/
def unentered (depth : Nat) : Expr → List (Nat × Expr)
  | node _ k cs => unenteredAll (k.entered depth) (k.depthBelow depth) cs

/-- The parts passed over in children of which the first `n` are entered. -/
def unenteredAll (n depth : Nat) : List Expr → List (Nat × Expr)
  | [] => []
  | c :: cs => (if n = 0 then [(depth, c)] else unentered depth c) ++ unenteredAll (n - 1) depth cs

end

/-- Whether the expression is a reduction. -/
def isReduction (e : Expr) : Bool :=
  match e.kind with
  | .agg _ => true
  | _ => false

/-- Whether the value depends on which rows are grouped together: a reduction, a running total, or
a function that changes the number of rows. -/
def isGroupDependent (e : Expr) : Bool :=
  match e.kind with
  | .agg _ => true
  | .unaryFunction f => f.isGroupUnsupported
  | _ => false

/-- No node of the expression depends on the group. -/
def GroupFree (e : Expr) : Prop := ∀ x ∈ e.nodes, x.isGroupDependent = false

/-- No node strictly below a reduction depends on the group. -/
def ReductionsClear (e : Expr) : Prop :=
  ∀ a ∈ e.nodes, a.isReduction = true → ∀ x ∈ a.descendants, x.isGroupDependent = false

/-- What is asked of an expression that stands below `depth` reductions. -/
def ClearBelow (depth : Nat) (e : Expr) : Prop :=
  if depth = 0 then e.ReductionsClear else e.GroupFree

variable {d : DataType} {k : Kind} {cs : List Expr} {depth : Nat}

/-- A reduction is told by its kind. -/
theorem isReduction_node :
    (node d k cs).isReduction = true ↔ ∃ f, k = .agg f := by
  cases k <;> simp [isReduction, kind]

/-- A node does not depend on the group if it does not do so itself and its children do not. -/
theorem groupFree_node :
    (node d k cs).GroupFree ↔
      (node d k cs).isGroupDependent = false ∧ ∀ c ∈ cs, c.GroupFree := by
  simp only [GroupFree, mem_nodes_node, forall_eq_or_imp, forall_exists_index, and_imp]
  exact and_congr_right fun _ ↦ ⟨fun h c hc x hx ↦ h x c hc hx, fun h x c hc hx ↦ h c hc x hx⟩

/-- Where nothing depends on the group, nothing does below a reduction. -/
theorem GroupFree.reductionsClear {e : Expr} (h : e.GroupFree) : e.ReductionsClear := by
  induction e using induction with
  | node d k cs ih =>
    obtain ⟨hself, hcs⟩ := groupFree_node.1 h
    intro a ha hr
    rcases mem_nodes_node.1 ha with rfl | ⟨c, hc, ha⟩
    · obtain ⟨f, rfl⟩ := isReduction_node.1 hr
      exact nomatch hself
    · exact ih c hc (hcs c hc) a ha hr

/-- A reduction asks more of its children than they ask of theirs. -/
theorem reductionsClear_node :
    (node d k cs).ReductionsClear ↔
      ((node d k cs).isReduction = true → ∀ c ∈ cs, c.GroupFree) ∧
        ∀ c ∈ cs, c.ReductionsClear := by
  constructor
  · intro h
    refine ⟨fun hr c hc x hx ↦ ?_, fun c hc a ha ↦ ?_⟩
    · exact h _ (mem_nodes_self _) hr x (mem_descendants_node.2 ⟨c, hc, hx⟩)
    · exact h a (mem_nodes_node.2 (.inr ⟨c, hc, ha⟩))
  · rintro ⟨hself, hcs⟩ a ha hr x hx
    rcases mem_nodes_node.1 ha with rfl | ⟨c, hc, ha⟩
    · obtain ⟨c, hc, hx⟩ := mem_descendants_node.1 hx
      exact hself hr c hc x hx
    · exact hcs c hc a ha hr x hx

/-- A reduction below no other passes the stricter demand on to its children. -/
theorem clearBelow_agg {f : AggFunction} :
    (node d (.agg f) cs).ClearBelow 0 ↔ ∀ c ∈ cs, c.ClearBelow 1 := by
  simp only [ClearBelow, if_true, Nat.one_ne_zero, if_false, reductionsClear_node]
  refine ⟨fun h ↦ h.1 rfl, fun h ↦ ⟨fun _ ↦ h, fun c hc ↦ (h c hc).reductionsClear⟩⟩

/-- Any node that does not depend on the group passes the demand on as it is. -/
theorem clearBelow_node (h : (node d k cs).isGroupDependent = false) :
    (node d k cs).ClearBelow depth ↔ ∀ c ∈ cs, c.ClearBelow depth := by
  have hr : ¬(node d k cs).isReduction = true := by
    intro hr
    obtain ⟨f, rfl⟩ := isReduction_node.1 hr
    exact nomatch h
  by_cases hdepth : depth = 0
  · simp [ClearBelow, hdepth, reductionsClear_node, hr]
  · simp [ClearBelow, hdepth, groupFree_node, h]

/-- Children of which none is entered are passed over whole. -/
theorem unenteredAll_zero : unenteredAll 0 depth cs = cs.map (depth, ·) := by
  induction cs with
  | nil => rfl
  | cons c cs ih => simp [unenteredAll, ih]

/-- **The search checks exactly what it enters**: below any number of reductions, an expression
whose requests were found is clear when what was passed over is. -/
theorem Collects.clearBelow_iff {e : Expr} {rs : List AggRequest} (h : Collects depth e rs) :
    e.ClearBelow depth ↔ ∀ p ∈ e.unentered depth, p.2.ClearBelow p.1 := by
  induction h with
  | col | literal | literalColumn | len =>
    rw [clearBelow_node rfl, unentered]
    simp [Kind.entered, Kind.depthBelow, unenteredAll_zero]
  | cast _ ih =>
    rw [clearBelow_node rfl, unentered]
    simp [Kind.entered, Kind.depthBelow, unenteredAll, unenteredAll_zero, ih, or_imp, forall_and]
  | functionBelow hf =>
    rw [clearBelow_node (show isGroupDependent (node _ (.unaryFunction _) _) = false from hf),
      unentered]
    simp [Kind.entered, Kind.depthBelow, unenteredAll_zero]
  | function hf hdepth _ ih =>
    rw [clearBelow_node (show isGroupDependent (node _ (.unaryFunction _) _) = false from hf),
      unentered]
    simp [Kind.entered, Kind.depthBelow, hdepth, unenteredAll, unenteredAll_zero, ih, or_imp,
      forall_and]
  | binOpBelow =>
    rw [clearBelow_node rfl, unentered]
    simp [Kind.entered, Kind.depthBelow, unenteredAll_zero]
  | binOpLists hdepth _ _ _ ihl ihr | binOp hdepth _ _ _ ihl ihr =>
    rw [clearBelow_node rfl, unentered]
    simp [Kind.entered, Kind.depthBelow, hdepth, unenteredAll, unenteredAll_zero, ihl, ihr, or_imp,
      forall_and]
  | agg _ _ _ _ ih =>
    rw [clearBelow_agg, unentered]
    simp [Kind.entered, Kind.depthBelow, unenteredAll, unenteredAll_zero, ih, or_imp, forall_and]

/-- **Nothing that depends on the group stands below a reduction**, in an expression whose requests
were found, exactly when this is so in every part that the search passed over: a part below a
reduction must hold no such node at all, and one beside the reductions none below its own. -/
theorem reductionsClear_iff {e : Expr} {rs : List AggRequest} (h : e.collect 0 = .ok rs) :
    e.ReductionsClear ↔ ∀ p ∈ e.unentered 0,
      (p.1 = 0 → p.2.ReductionsClear) ∧ (p.1 ≠ 0 → p.2.GroupFree) := by
  have hiff := (Collects.of_collect h).clearBelow_iff
  rw [ClearBelow, if_pos rfl] at hiff
  rw [hiff]
  refine forall₂_congr fun p _ ↦ ?_
  by_cases hp : p.1 = 0 <;> simp [ClearBelow, hp]

/-- The sum of a column to each of whose rows the column's sum is added. -/
def sumOfShifted : Expr :=
  node .int64 (.agg .sum) [node .int64 (.binOp (.arithmetic .add))
    [node .int64 (.agg .sum) [node .int64 (.col "a") []], node .int64 (.col "a") []]]

/-- The sum of the shifted column, and what was passed over in it. -/
theorem reductionsClear_iff_sumOfShifted :
    ∃ rs, sumOfShifted.collect 0 = .ok rs ∧
      (sumOfShifted.ReductionsClear ↔ ∀ p ∈ sumOfShifted.unentered 0,
        (p.1 = 0 → p.2.ReductionsClear) ∧ (p.1 ≠ 0 → p.2.GroupFree)) :=
  ⟨_, rfl, reductionsClear_iff rfl⟩

theorem sumOfShifted_wellFormed : sumOfShifted.WellFormed := by
  have ha : WellFormed (node .int64 (.col "a") []) := .node nofun rfl rfl
  refine .node ?_ rfl rfl
  rintro _ (_ | ⟨_, ⟨⟩⟩)
  refine .node ?_ rfl rfl
  rintro _ (_ | ⟨_, _ | ⟨_, ⟨⟩⟩⟩)
  · refine .node ?_ rfl rfl
    rintro _ (_ | ⟨_, ⟨⟩⟩)
    exact ha
  · exact ha

/-- A reduction below a reduction is not always refused: the search stops at the addition. -/
theorem not_reductionsClear_sumOfShifted :
    sumOfShifted.WellFormed ∧ (∃ rs, sumOfShifted.collect 0 = .ok rs) ∧
      ¬sumOfShifted.ReductionsClear := by
  refine ⟨sumOfShifted_wellFormed, ⟨_, rfl⟩, fun h ↦ ?_⟩
  exact nomatch h sumOfShifted (mem_nodes_self _) rfl
    (node .int64 (.agg .sum) [node .int64 (.col "a") []]) (by simp [sumOfShifted, descendants,
      children, nodesAll, nodes])

end Expr

end Tabular
