import Mathlib.Data.List.Basic
import Tabular.Proofs.Expr.Values

/-!
# What evaluation reads

A node looks at some of its children, from the left, and computes its value from their columns. The
children that it does not look at are literals that it takes as they stand, or the child of a test
for finiteness whose type decides the test.

`Expr.evaluate_eq_bind` puts this into one equation for all kinds: a node evaluates the children
that it reads, in order, and then computes. It rests on the check that the node passed when it was
built, which sees to it that the children to be read are there (`Kind.reads_le`). What is proved
about evaluation by means of it needs one argument about reading children and one about what a kind
does to columns.

Evaluation visits the node itself and what the children that it reads visit
(`Expr.mem_visited_node`). Nodes that are not visited may be anything, and so a property that an
evaluation needs is asked of visited nodes only.
-/

namespace Tabular

/-! ### Checks that were passed -/

/-- The check of the number of children. -/
@[simp]
theorem checkArity_eq_ok {name : String} {cs : List Expr} {n : Nat} {u : Unit} :
    checkArity name cs n = .ok u ↔ cs.length = n := by
  unfold checkArity
  split
  · next h => exact ⟨fun _ ↦ h, fun _ ↦ rfl⟩
  · next h => exact ⟨nofun, fun h' ↦ absurd h' h⟩

/-- The check of a condition. -/
@[simp]
theorem requires_eq_ok {condition : Bool} {cause : Unsupported} {u : Unit} :
    requires condition cause = .ok u ↔ condition = true := by
  cases condition
  · exact ⟨nofun, nofun⟩
  · exact ⟨fun _ ↦ rfl, fun _ ↦ rfl⟩

/-- A function that compares with another text has two children. -/
theorem StringFunction.length_of_check {g : StringFunction} {kind : Text.MatchKind}
    (hkind : g.matchKind? = some kind) {cs : List Expr} (h : g.check cs = .ok ()) :
    cs.length = 2 := by
  cases g with
  | contains literal strict =>
    cases literal with
    | true =>
      obtain ⟨_, h, -⟩ := Outcome.bind_eq_ok.1 h
      exact checkArity_eq_ok.1 h
    | false => cases hkind
  | startsWith | endsWith => exact checkArity_eq_ok.1 h
  | _ => cases hkind

namespace UnaryFunction

variable {d : DataType} {cs : List Expr} {columns : List (Outcome Column)}

/-- A literal that fills nulls is not evaluated. -/
theorem filler_of_literal {v : Literal} (h : (cs[1]?).bind Expr.literal? = some v) :
    filler d cs columns = v.toSeries d := by
  simp only [filler, h]

/-- A filler that is no literal is evaluated. -/
theorem filler_of_none {c c' : Outcome Column} {rest : List (Outcome Column)}
    (h : (cs[1]?).bind Expr.literal? = none) :
    filler d cs (c :: c' :: rest) = c' >>= fun col ↦ .ok col.series := by
  simp only [filler, h, List.getElem?_cons_succ, List.getElem?_cons_zero]

end UnaryFunction

/-- The number of children, from the left, that the value of a node depends on. -/
def Kind.reads (k : Kind) (cs : List Expr) : Nat :=
  match k with
  | literal _ => 0
  | literalColumn _ => 0
  | col _ => 0
  | len => 0
  | booleanFunction g => if cs.all fun c ↦ g.readsChild c.dtype then cs.length else 0
  | stringFunction g => if g.matchKind?.isSome then 2 else 1
  -- a filler that is a literal is not evaluated
  | unaryFunction .fillNull => if ((cs[1]?).bind Expr.literal?).isSome then 1 else 2
  | unaryFunction _ => 1
  | agg _ => 1
  | _ => cs.length

/-- A node that needs children has one. -/
theorem checkArity_pos {name : String} {cs : List Expr} {n : Nat} {u : Unit}
    (h : checkArity name cs (n + 1) = .ok u) : 0 < cs.length :=
  checkArity_eq_ok.1 h ▸ Nat.succ_pos n

/-- A function of text has a child. -/
theorem StringFunction.pos_of_check {g : StringFunction} {cs : List Expr}
    (h : g.check cs = .ok ()) : 0 < cs.length := by
  cases g with
  | startsWith | endsWith | lowercase | uppercase => exact checkArity_pos h
  | _ =>
    obtain ⟨_, h, -⟩ := Outcome.bind_eq_ok.1 h
    exact checkArity_pos h

/-- Nulls are filled from a second child; all other functions have one child. -/
theorem UnaryFunction.length_of_check {g : UnaryFunction} {cs : List Expr}
    (h : g.check cs = .ok ()) : cs.length = if g = .fillNull then 2 else 1 := by
  unfold check at h
  split at h
  · exact checkArity_eq_ok.1 h
  · obtain ⟨_, h, -⟩ := Outcome.bind_eq_ok.1 h
    exact checkArity_eq_ok.1 h
  · next hfill _ =>
    obtain ⟨_, h, -⟩ := Outcome.bind_eq_ok.1 h
    rw [if_neg hfill]
    exact checkArity_eq_ok.1 h

/-- A reduction has a child. -/
theorem AggFunction.pos_of_check {g : AggFunction} {cs : List Expr} (h : g.check cs = .ok ()) :
    0 < cs.length := by
  cases g with
  | quantile _ =>
    obtain ⟨_, h, -⟩ := Outcome.bind_eq_ok.1 h
    exact checkArity_pos h
  | _ => exact checkArity_pos h

/-- The children that evaluation reads are there. -/
theorem Kind.reads_le {k : Kind} {d : DataType} {cs : List Expr} (hcheck : k.check d cs = .ok ()) :
    k.reads cs ≤ cs.length := by
  cases k with
  | literal _ | literalColumn _ | col _ | len => exact Nat.zero_le _
  | booleanFunction g =>
    simp only [reads]
    split
    · exact Nat.le_refl _
    · exact Nat.zero_le _
  | stringFunction g =>
    simp only [reads]
    split
    -- A match reads its pattern besides its text, and the check has counted both.
    · next hkind =>
      obtain ⟨kind, hkind⟩ := Option.isSome_iff_exists.1 hkind
      exact Nat.le_of_eq (g.length_of_check hkind hcheck).symm
    · exact g.pos_of_check hcheck
  | unaryFunction g =>
    rw [g.length_of_check hcheck]
    cases g with
    | fillNull =>
      simp only [reads]
      split <;> decide
    | _ => exact Nat.le_refl 1
  | agg g => exact g.pos_of_check hcheck
  | _ => exact Nat.le_refl _

namespace Expr

variable {f : Frame} {d : DataType} {k : Kind} {cs : List Expr}

/-- Nulls are filled from a literal as it stands, or from the column of the second child. -/
theorem evaluateNode_fillNull_eq_bind (hlen : cs.length = 2) (ev : Expr → Outcome Column) :
    evaluateNode f .frame d (.unaryFunction .fillNull) cs (cs.map ev) =
      (cs.take ((Kind.unaryFunction .fillNull).reads cs)).mapM ev >>= fun columns ↦
        evaluateNode f .frame d (.unaryFunction .fillNull) cs (columns.map .ok) := by
  obtain ⟨c, filler, rfl⟩ := List.length_eq_two.1 hlen
  simp only [evaluateNode, Kind.reads, UnaryFunction.onColumn, List.map_cons, List.map_nil]
  cases hfiller : ([c, filler][1]?).bind literal? with
  | some v =>
    simp only [UnaryFunction.filler_of_literal hfiller, Option.isSome_some, if_true,
      Outcome.mapM_take_one]
    cases ev c <;> rfl
  | none =>
    simp only [UnaryFunction.filler_of_none hfiller, Option.isSome_none, Bool.false_eq_true,
      if_false, List.take_succ_cons, List.take_zero, Outcome.mapM_pair]
    cases ev c with
    | error e => rfl
    | ok col =>
      cases ev filler with
      | error e => rfl
      | ok col' =>
        simp only [Outcome.ok_bind, List.map_cons, List.map_nil,
          UnaryFunction.filler_of_none hfiller]

/-- What a node that passed its check does with evaluated children: it takes those that it reads, in
order, and computes. -/
theorem evaluateNode_eq_bind (hcheck : k.check d cs = .ok ()) (ev : Expr → Outcome Column) :
    evaluateNode f .frame d k cs (cs.map ev) =
      (cs.take (k.reads cs)).mapM ev >>= fun columns ↦
        evaluateNode f .frame d k cs (columns.map .ok) := by
  -- kinds that look at all columns do so in order
  have hall {α : Type} (value : List Column → Outcome α) :
      (cs.map ev).mapM id >>= value =
        cs.mapM ev >>= fun columns ↦ (columns.map .ok).mapM id >>= value := by
    simp only [Outcome.mapM_id_map ev, Outcome.mapM_id_ok, Outcome.ok_bind]
  cases k with
  | literal _ | literalColumn _ | col _ | len => rfl
  | booleanFunction g =>
    simp only [evaluateNode, Kind.reads]
    split
    · rw [List.take_length, hall]
    · rfl
  | stringFunction g =>
    simp only [evaluateNode, Kind.reads, StringFunction.onColumns]
    cases hkind : g.matchKind? with
    | none =>
      obtain ⟨c, rest, rfl⟩ := List.exists_cons_of_length_pos (g.pos_of_check hcheck)
      simp only [Option.isSome_none, Bool.false_eq_true, if_false, List.map_cons,
        Outcome.mapM_take_one]
      cases ev c <;> rfl
    | some kind =>
      obtain ⟨c, needle, rfl⟩ := List.length_eq_two.1 (g.length_of_check hkind hcheck)
      simp only [Option.isSome_some, if_true, List.take_succ_cons, List.take_zero, List.map_cons,
        List.map_nil, Outcome.mapM_pair]
      cases ev c with
      | error e => rfl
      | ok col => cases ev needle <;> rfl
  | unaryFunction g =>
    have hlen := g.length_of_check hcheck
    cases g with
    | fillNull => exact evaluateNode_fillNull_eq_bind hlen ev
    | _ =>
      obtain ⟨c, rfl⟩ := List.length_eq_one_iff.1 hlen
      simp only [evaluateNode, Kind.reads, UnaryFunction.onColumn, List.map_cons,
        Outcome.mapM_take_one]
      cases ev c <;> rfl
  | agg g =>
    obtain ⟨c, rest, rfl⟩ := List.exists_cons_of_length_pos (g.pos_of_check hcheck)
    simp only [evaluateNode, Kind.reads, List.map_cons, Outcome.mapM_take_one, if_true]
    cases ev c <;> rfl
  | _ =>
    simp only [evaluateNode, Kind.reads]
    rw [List.take_length, hall]

/-- **A node evaluates the children that it reads, in order, and then computes its value** from
their columns. -/
theorem evaluate_eq_bind (hcheck : k.check d cs = .ok ()) :
    (node d k cs).evaluate f .frame .empty =
      (cs.take (k.reads cs)).mapM (evaluate f .frame .empty) >>= fun columns ↦
        evaluateNode f .frame d k cs (columns.map .ok) := by
  rw [evaluate, Mapping.find?_empty, evaluateAll_eq_map]
  exact evaluateNode_eq_bind hcheck _

mutual

/-- The nodes that evaluation comes to, as long as nothing fails. -/
def visited : Expr → List Expr
  | node d k cs => node d k cs :: visitedAll (k.reads cs) cs

/-- The nodes visited in the first of several expressions. -/
def visitedAll : Nat → List Expr → List Expr
  | n + 1, c :: cs => visited c ++ visitedAll n cs
  | _, _ => []

end

/-- What is visited in the first of several expressions is visited in one of these. -/
theorem mem_visitedAll {x : Expr} {n : Nat} :
    x ∈ visitedAll n cs ↔ ∃ c ∈ cs.take n, x ∈ c.visited := by
  induction cs generalizing n with
  | nil => cases n <;> simp [visitedAll]
  | cons c cs ih => cases n <;> simp [visitedAll, ih]

/-- Evaluation visits the node itself and what the children that it reads visit. -/
theorem mem_visited_node {x : Expr} : x ∈ (node d k cs).visited ↔
    x = node d k cs ∨ ∃ c ∈ cs.take (k.reads cs), x ∈ c.visited := by
  rw [visited, List.mem_cons, mem_visitedAll]

/-- What holds of every visited node holds of the node itself and below. -/
theorem forall_visited_node {P : Expr → Prop} : (∀ x ∈ (node d k cs).visited, P x) ↔
    P (node d k cs) ∧ ∀ c ∈ cs.take (k.reads cs), ∀ x ∈ c.visited, P x := by
  simp only [mem_visited_node, forall_eq_or_imp, forall_exists_index, and_imp]
  exact and_congr_right fun _ ↦ ⟨fun h c hc x hx ↦ h x c hc hx, fun h x c hc hx ↦ h c hc x hx⟩

/-- Evaluation visits nodes of the expression only. -/
theorem mem_nodes_of_mem_visited {e x : Expr} (h : x ∈ e.visited) : x ∈ e.nodes := by
  induction e using Expr.induction with
  | node d k cs ih =>
    rcases mem_visited_node.1 h with rfl | ⟨c, hc, hx⟩
    · exact mem_nodes_self _
    · exact mem_nodes_node.2 (.inr ⟨c, List.mem_of_mem_take hc, ih c (List.mem_of_mem_take hc) hx⟩)

end Expr

end Tabular
