import Tabular.Proofs.Expr.Nodes
import Tabular.Proofs.Outcome

/-!
# What the search for requests finds

`Expr.collect` walks an expression from the top and stops where a group cannot be looked into.
`Expr.Collects` says the same by rules, one for each way in which the walk goes on or ends with
success; a walk that fails has no rule. Facts about requests are proved by induction on the rules,
and `Expr.collect_eq_ok` says that nothing is lost by it.

The fact that everything else rests on is that a request is the one that its owner makes on its own
(`Expr.Collects.owner`). Requests with one owner are one request, and so a mapping by owners holds
every answer.

The depth in the rules is the number of reductions above the node, and no walk that succeeds passes
more than one. Below a reduction a node is asked for as it stands and its children are not walked;
so functions and operators have rules of their own for either depth.
-/

namespace Tabular

namespace Expr

/-- `Collects depth e rs`: below `depth` reductions, the walk of `e` ends with the requests `rs`. -/
inductive Collects : Nat → Expr → List AggRequest → Prop
  | col {depth : Nat} {d : DataType} {name : String} {cs : List Expr} :
      Collects depth (node d (.col name) cs) [.list (node d (.col name) cs)]
  | literal {depth : Nat} {d : DataType} {v : Literal} {cs : List Expr} :
      Collects depth (node d (.literal v) cs) []
  | literalColumn {depth : Nat} {d : DataType} {stored : StoredSeries} {cs : List Expr} :
      Collects depth (node d (.literalColumn stored) cs) []
  | len {depth : Nat} {d : DataType} {cs : List Expr} :
      Collects depth (node d .len cs) [.size (node d .len cs)]
  | cast {depth : Nat} {d : DataType} {c : Expr} {cs : List Expr} {rs : List AggRequest} :
      Collects depth c rs → Collects depth (node d .cast (c :: cs)) rs
  /-- Below a reduction a function of one column is not looked into. -/
  | functionBelow {d : DataType} {f : UnaryFunction} {cs : List Expr} :
      f.isGroupUnsupported = false →
      Collects 1 (node d (.unaryFunction f) cs) [.list (node d (.unaryFunction f) cs)]
  | function {depth : Nat} {d : DataType} {f : UnaryFunction} {c : Expr} {cs : List Expr}
      {rs : List AggRequest} :
      f.isGroupUnsupported = false → depth ≠ 1 → Collects depth c rs →
      Collects depth (node d (.unaryFunction f) (c :: cs)) rs
  /-- Below a reduction a binary operation is not looked into. -/
  | binOpBelow {d : DataType} {op : BinaryOp} {cs : List Expr} :
      Collects 1 (node d (.binOp op) cs) [.list (node d (.binOp op) cs)]
  /-- Lists on both sides become one list of the whole. -/
  | binOpLists {depth : Nat} {d : DataType} {op : BinaryOp} {l r : Expr} {cs : List Expr}
      {ls rs : List AggRequest} :
      depth ≠ 1 → Collects depth l ls → Collects depth r rs →
      (ls ++ rs).all (·.reduction.isCollectList) = true →
      Collects depth (node d (.binOp op) (l :: r :: cs))
        [.list (node d (.binOp op) (l :: r :: cs))]
  | binOp {depth : Nat} {d : DataType} {op : BinaryOp} {l r : Expr} {cs : List Expr}
      {ls rs : List AggRequest} :
      depth ≠ 1 → Collects depth l ls → Collects depth r rs →
      (ls ++ rs).all (·.reduction.isCollectList) = false →
      Collects depth (node d (.binOp op) (l :: r :: cs)) (ls ++ rs)
  | agg {d : DataType} {f : AggFunction} {c : Expr} {cs : List Expr} {q : AggRequest}
      {reduction : Aggregation} {input : Option Expr} :
      f.propagatesNans = false → Collects 1 c [q] → f.request (c :: cs) = .ok reduction →
      q.input.mapM f.preparedInput = .ok input →
      Collects 0 (node d (.agg f) (c :: cs)) [⟨input, reduction, node d (.agg f) (c :: cs)⟩]

theorem collectAll_eq_map (cs : List Expr) (depth : Nat) :
    collectAll cs depth = cs.map (·.collect depth) := by
  induction cs with
  | nil => rfl
  | cons c cs ih => rw [collectAll, ih, List.map_cons]

/-- The walk of a node in terms of the walks of its children. -/
theorem collect_node (depth : Nat) (d : DataType) (k : Kind) (cs : List Expr) :
    (node d k cs).collect depth =
      collectNode depth (node d k cs) fun depth ↦ cs.map (·.collect depth) := by
  rw [collect]
  simp only [collectAll_eq_map]

/-- What a reduction asks for, from the one request of its child. -/
theorem collectNode_agg_eq_ok {f : AggFunction} {e : Expr} {inner rs : List AggRequest} :
    f.collectNode e inner = .ok rs ↔ ∃ q reduction input, inner = [q] ∧
      f.request e.children = .ok reduction ∧ q.input.mapM f.preparedInput = .ok input ∧
      rs = [⟨input, reduction, e⟩] := by
  match inner with
  | [] => exact ⟨nofun, fun ⟨_, _, _, h, _⟩ ↦ nomatch h⟩
  | _ :: _ :: _ => exact ⟨nofun, fun ⟨_, _, _, h, _⟩ ↦ nomatch h⟩
  | [q] =>
    simp only [AggFunction.collectNode]
    rw [Outcome.bind_eq_ok]
    constructor
    · rintro ⟨reduction, hr, h⟩
      obtain ⟨input, hi, h⟩ := Outcome.bind_eq_ok.1 h
      injection h with h
      exact ⟨q, reduction, input, rfl, hr, hi, h.symm⟩
    · rintro ⟨_, reduction, input, ⟨⟩, hr, hi, rfl⟩
      exact ⟨reduction, hr, Outcome.bind_eq_ok.2 ⟨input, hi, rfl⟩⟩

/-- Every successful walk is one that the rules allow. -/
theorem Collects.of_collect {e : Expr} {depth : Nat} {rs : List AggRequest}
    (h : e.collect depth = .ok rs) : Collects depth e rs := by
  -- The search goes to the same children as the relation. Where two rules of the relation are about
  -- nodes of one kind, a guard of the search tells them apart: the depth, or whether lists meet.
  induction e using induction generalizing depth rs with
  | node d k cs ih =>
    rw [collect_node] at h
    cases k with
    | col name => injection h with h; exact h ▸ .col
    | literal v => injection h with h; exact h ▸ .literal
    | literalColumn stored => injection h with h; exact h ▸ .literalColumn
    | len => injection h with h; exact h ▸ .len
    | cast =>
      cases cs with
      | nil => cases h
      | cons c cs => exact .cast (ih c List.mem_cons_self h)
    | unaryFunction f =>
      simp only [collectNode, kind] at h
      split at h
      · cases h
      · next hf =>
        rw [Bool.not_eq_true] at hf
        split at h
        · next hdepth =>
          injection h with h
          exact hdepth ▸ h ▸ .functionBelow hf
        · next hdepth =>
          cases cs with
          | nil => cases h
          | cons c cs => exact .function hf hdepth (ih c List.mem_cons_self h)
    | binOp op =>
      simp only [collectNode, kind] at h
      split at h
      · next hdepth =>
        injection h with h
        exact hdepth ▸ h ▸ .binOpBelow
      · next hdepth =>
        rcases cs with _ | ⟨l, _ | ⟨r, cs⟩⟩
        · cases h
        · obtain ⟨_, _, h⟩ := Outcome.bind_eq_ok.1 h
          cases h
        · obtain ⟨ls, hl, h⟩ := Outcome.bind_eq_ok.1 h
          obtain ⟨rs', hr, h⟩ := Outcome.bind_eq_ok.1 h
          have hl := ih l (by simp) hl
          have hr := ih r (by simp) hr
          injection h with h
          split at h
          · next hall =>
            exact h ▸ .binOpLists hdepth hl hr hall
          · next hall =>
            exact h ▸ .binOp hdepth hl hr ((Bool.not_eq_true _).mp hall)
    | agg f =>
      simp only [collectNode, kind] at h
      split at h
      · cases h
      · next hdepth =>
        split at h
        · cases h
        · next hf =>
          obtain rfl : depth = 0 := by omega
          cases cs with
          | nil => cases h
          | cons c cs =>
            obtain ⟨inner, hc, h⟩ := Outcome.bind_eq_ok.1 h
            obtain ⟨q, reduction, input, rfl, hr, hi, rfl⟩ := collectNode_agg_eq_ok.1 h
            exact .agg (by simpa using hf) (ih c List.mem_cons_self hc) hr hi
    -- Nodes of the remaining kinds are refused.
    | _ => cases h

/-- And every walk that the rules allow succeeds. -/
theorem Collects.collect_eq {e : Expr} {depth : Nat} {rs : List AggRequest}
    (h : Collects depth e rs) : e.collect depth = .ok rs := by
  induction h with
  | col | literal | literalColumn | len => rfl
  | cast _ ih => rw [collect_node]; exact ih
  | functionBelow hf => rw [collect_node]; simp [collectNode, kind, hf]
  | function hf hdepth _ ih => rw [collect_node]; simp [collectNode, kind, hf, hdepth, ih]
  | binOpBelow => rw [collect_node]; simp [collectNode, kind]
  | binOpLists hdepth _ _ hall ihl ihr =>
    rw [collect_node]
    simp only [collectNode, kind, if_neg hdepth, List.map_cons, List.getElem?_cons_zero,
      List.getElem?_cons_succ, Option.getD_some, ihl, ihr, Outcome.ok_bind, hall, if_true]
  | binOp hdepth _ _ hall ihl ihr =>
    rw [collect_node]
    simp only [collectNode, kind, if_neg hdepth, List.map_cons, List.getElem?_cons_zero,
      List.getElem?_cons_succ, Option.getD_some, ihl, ihr, Outcome.ok_bind, hall,
      Bool.false_eq_true, if_false]
  | agg hf _ hr hi ih =>
    rw [collect_node]
    simp only [collectNode, kind, hf, Bool.false_eq_true, if_false, List.map_cons,
      List.getElem?_cons_zero, Option.getD_some, Nat.zero_add, ih, Outcome.ok_bind]
    exact collectNode_agg_eq_ok.2 ⟨_, _, _, rfl, hr, hi, rfl⟩

/-- **The walk succeeds exactly as the rules say.** -/
theorem collect_eq_ok {e : Expr} {depth : Nat} {rs : List AggRequest} :
    e.collect depth = .ok rs ↔ Collects depth e rs :=
  ⟨.of_collect, Collects.collect_eq⟩

/-- A walk ends in one way only. -/
theorem Collects.unique {e : Expr} {depth : Nat} {rs rs' : List AggRequest}
    (h : Collects depth e rs) (h' : Collects depth e rs') : rs = rs' := by
  have heq := h.collect_eq
  rw [h'.collect_eq] at heq
  injection heq with heq
  exact heq.symm

/-- **A request is the one of its owner.** The owner of a request that stands below no reduction,
walked on its own, makes this request and no other. -/
theorem Collects.owner {e : Expr} {rs : List AggRequest} (h : Collects 0 e rs) {q : AggRequest}
    (hq : q ∈ rs) : Collects 0 q.owner [q] := by
  generalize hdepth : 0 = depth at h
  induction h with
  | literal | literalColumn => cases hq
  | functionBelow | binOpBelow => cases hdepth
  | cast _ ih | function _ _ _ ih => exact ih hq hdepth
  | col => rw [List.mem_singleton.1 hq]; exact .col
  | len => rw [List.mem_singleton.1 hq]; exact .len
  | binOpLists hd hl hr hall =>
    subst hdepth
    rw [List.mem_singleton.1 hq]
    exact .binOpLists hd hl hr hall
  | binOp _ _ _ _ ihl ihr =>
    rcases List.mem_append.1 hq with hq | hq
    · exact ihl hq hdepth
    · exact ihr hq hdepth
  | agg hf hc hr hi =>
    rw [List.mem_singleton.1 hq]
    exact .agg hf hc hr hi

/-- Requests with one owner are one request. -/
theorem Collects.eq_of_owner_eq {e e' : Expr} {rs rs' : List AggRequest} (h : Collects 0 e rs)
    (h' : Collects 0 e' rs') {q q' : AggRequest} (hq : q ∈ rs) (hq' : q' ∈ rs')
    (howner : q.owner = q'.owner) : q = q' := by
  have hself := h.owner hq
  rw [howner] at hself
  injection hself.unique (h'.owner hq')

end Expr

end Tabular
