import Mathlib.Data.Fintype.Option
import Tabular.Proofs.Rows.Distinct

/-!
# Connectives of any number of operands

Of Kleene's two connectives each is settled by one truth value: a true operand settles a
disjunction, a false one a conjunction. If no operand settles it, the result is the other truth
value if all operands are known, and unknown if not. `Connective.Joins` describes the result for any
number of operands, in any order, and it is what a fold by the connective arrives at
(`Connective.Joins.foldl`).

Whether any row of a column is true, or all are, is not found by a fold: the rows are searched for
the value that settles the connective, and then for nulls. That both ways agree is seen from the
description that they share, since the operands have one value by it (`Connective.Joins.unique`),
and so are the laws for two columns one after the other and for negation. Nulls that are ignored are
left out of the operands. All of this is `Expr.foldsFlags_any_all`.
-/

namespace Tabular

/-! ### What a connective makes of its operands -/

namespace Connective

variable {b : Bool} {xs ys : List (Option Bool)} {x y v w : Option Bool}

/-- The one of Kleene's connectives that an operand with this truth value settles. -/
def settledBy : Bool → Connective
  | true => kleeneOr
  | false => kleeneAnd

/-- The value is what the connective that `b` settles makes of the operands: `b` if one of them is,
the other truth value, which is neutral, if all of them are, and unknown if neither is the case. -/
structure Joins (b : Bool) (operands : List (Option Bool)) (value : Option Bool) : Prop where
  settled_iff : value = some b ↔ some b ∈ operands
  neutral_iff : value = some (!b) ↔ ∀ x ∈ operands, x = some (!b)

/-- The connective is settled by either operand. -/
theorem onRows_settledBy_eq_settled :
    (settledBy b).onRows (x, y) = some b ↔ x = some b ∨ y = some b := by
  decide +revert

/-- It has the other truth value if both operands have. -/
theorem onRows_settledBy_eq_neutral :
    (settledBy b).onRows (x, y) = some (!b) ↔ x = some (!b) ∧ y = some (!b) := by
  decide +revert

/-- A truth value, known or not, is told by when it is known to be true or false. -/
theorem eq_of_eq_some_iff (hsettled : v = some b ↔ w = some b)
    (hneutral : v = some (!b) ↔ w = some (!b)) : v = w := by
  revert hsettled hneutral
  decide +revert

/-- Negation is known where the truth value is. -/
theorem map_not_eq_some : x.map Bool.not = some b ↔ x = some (!b) := by
  decide +revert

/-- A known truth value that settles nothing is the other one. -/
theorem eq_neutral_iff : x = some (!b) ↔ x ≠ some b ∧ x ≠ none := by
  decide +revert

namespace Joins

/-- An operand settles the connective. -/
theorem settled (h : some b ∈ xs) : Joins b xs (some b) where
  settled_iff := iff_of_true rfl h
  neutral_iff := iff_of_false (by simp) fun hall ↦ by simpa using hall (some b) h

/-- It is unknown if it is not settled and an operand is unknown. -/
theorem unknown (h : some b ∉ xs) (hnone : none ∈ xs) : Joins b xs none where
  settled_iff := iff_of_false nofun h
  neutral_iff := iff_of_false nofun fun hall ↦ nomatch hall none hnone

/-- It is the other truth value if all operands are. -/
theorem neutral (h : some b ∉ xs) (hnone : none ∉ xs) : Joins b xs (some !b) where
  settled_iff := iff_of_false (by simp) h
  neutral_iff := iff_of_true rfl fun x hx ↦
    eq_neutral_iff.2 ⟨fun hxb ↦ h (hxb ▸ hx), fun hxn ↦ hnone (hxn ▸ hx)⟩

theorem singleton : Joins b [x] x where
  settled_iff := by rw [List.mem_singleton, eq_comm]
  neutral_iff := by simp

/-- The connective of two values is that of all their operands. -/
theorem append (hv : Joins b xs v) (hw : Joins b ys w) :
    Joins b (xs ++ ys) ((settledBy b).onRows (v, w)) where
  settled_iff := by
    rw [onRows_settledBy_eq_settled, hv.settled_iff, hw.settled_iff, List.mem_append]
  neutral_iff := by
    rw [onRows_settledBy_eq_neutral, hv.neutral_iff, hw.neutral_iff, List.forall_mem_append]

/-- The operands have one value. -/
theorem unique (hv : Joins b xs v) (hw : Joins b xs w) : v = w :=
  eq_of_eq_some_iff (hv.settled_iff.trans hw.settled_iff.symm)
    (hv.neutral_iff.trans hw.neutral_iff.symm)

/-- The order of the operands does not matter. -/
theorem of_perm (hv : Joins b xs v) (hperm : xs.Perm ys) : Joins b ys v where
  settled_iff := hv.settled_iff.trans hperm.mem_iff
  neutral_iff := hv.neutral_iff.trans (forall_congr' fun _ ↦ imp_congr_left hperm.mem_iff)

/-- **A fold by a connective joins its operands** to what it starts from. -/
theorem foldl (hv : Joins b xs v) (ys : List (Option Bool)) :
    Joins b (xs ++ ys) (ys.foldl (fun v y ↦ (settledBy b).onRows (v, y)) v) := by
  induction ys generalizing xs v with
  | nil => rwa [List.append_nil]
  | cons y ys ih =>
    rw [← List.singleton_append, ← List.append_assoc]
    exact ih (hv.append singleton)

/-- Negation turns the connective into the other one. -/
theorem not (hv : Joins b xs v) : Joins (!b) (xs.map (Option.map Bool.not)) (v.map Bool.not) where
  settled_iff := by
    simp only [map_not_eq_some, Bool.not_not, hv.settled_iff, List.mem_map, exists_eq_right]
  neutral_iff := by
    simp only [map_not_eq_some, Bool.not_not, hv.neutral_iff, List.forall_mem_map]

end Joins

end Connective

/-! ### Rows of truth values -/

namespace Series

open Connective

variable {b ignoreNulls : Bool} {rows rows' : List (Option Bool)}

/-- The rows that a reduction of truth values looks at. -/
def heeded (ignoreNulls : Bool) (rows : List (Option Bool)) : List (Option Bool) :=
  if ignoreNulls then rows.filter Option.isSome else rows

/-- The rows of two columns are looked at one after the other. -/
@[simp]
theorem heeded_append :
    heeded ignoreNulls (rows ++ rows') = heeded ignoreNulls rows ++ heeded ignoreNulls rows' := by
  cases ignoreNulls
  · rfl
  · exact List.filter_append rows rows'

/-- Negation leaves the same rows to look at. -/
theorem heeded_map_not : heeded ignoreNulls (rows.map (Option.map Bool.not)) =
    (heeded ignoreNulls rows).map (Option.map Bool.not) := by
  cases ignoreNulls
  · rfl
  · simp [heeded, List.filter_map, Function.comp_def]

/-- Whether any row that counts has the truth value `b`; if none has, and all of them are known,
then they all have the other one. -/
def search (b ignoreNulls : Bool) (rows : List (Option Bool)) : Option Bool :=
  if rows.contains (some b) then some b
  else if !ignoreNulls && rows.contains none then none
  else some !b

/-- **A search finds what the connective makes of the rows.** -/
theorem joins_search (b ignoreNulls : Bool) (rows : List (Option Bool)) :
    Joins b (heeded ignoreNulls rows) (search b ignoreNulls rows) := by
  have hsome : some b ∈ heeded ignoreNulls rows ↔ rows.contains (some b) = true := by
    cases ignoreNulls <;> simp [heeded]
  have hnone : none ∈ heeded ignoreNulls rows ↔ (!ignoreNulls && rows.contains none) = true := by
    cases ignoreNulls <;> simp [heeded]
  unfold search
  split
  · next h => exact .settled (hsome.2 h)
  · next h =>
    have hno : some b ∉ heeded ignoreNulls rows := mt hsome.1 h
    split
    · next hunknown => exact .unknown hno (hnone.2 hunknown)
    · next hknown => exact .neutral hno (mt hnone.1 hknown)

/-- The rows folded by an operator from the left, each as a column of its own. -/
def foldRows (c : Connective) (start : Bool) (rows : List (Option Bool)) : Outcome Series :=
  rows.foldlM (fun total row ↦ total.combine (.logical c) .boolean (ofFlags [row]))
    (ofFlags [some start])

/-- An operator on single truth values. -/
theorem combine_logical_single (c : Connective) (x y : Option Bool) :
    (ofFlags [x]).combine (.logical c) .boolean (ofFlags [y]) = .ok (ofFlags [c.onRows (x, y)]) :=
  rfl

/-- Folding single rows folds their truth values. -/
theorem foldRows_eq (c : Connective) (start : Bool) (rows : List (Option Bool)) :
    foldRows c start rows =
      .ok (ofFlags [rows.foldl (fun total row ↦ c.onRows (total, row)) (some start)]) := by
  have hfold (total : Option Bool) : rows.foldlM
      (fun total row ↦ total.combine (.logical c) .boolean (ofFlags [row])) (ofFlags [total]) =
        .ok (ofFlags [rows.foldl (fun total row ↦ c.onRows (total, row)) total]) := by
    induction rows generalizing total with
    | nil => rfl
    | cons row rows ih =>
      rw [List.foldlM_cons, combine_logical_single, Outcome.ok_bind, ih, List.foldl_cons]
  exact hfold (some start)

end Series

/-! ### Nodes -/

/-- The reduction of truth values that looks for `b`. -/
def BooleanFunction.search : Bool → Bool → BooleanFunction
  | true => any
  | false => all

namespace Expr

open Connective Series

variable {fr : Frame} {x : Expr} {rows : List (Option Bool)}

/-- The value of a reduction of truth values is one row, namely what it finds in its child. -/
theorem values_search (b ignoreNulls : Bool)
    (hx : x.values fr .frame .empty = .ok (.ofFlags rows)) :
    (x.flag (.search b ignoreNulls)).values fr .frame .empty =
      .ok (.ofFlags [Series.search b ignoreNulls rows]) := by
  obtain ⟨⟨s, sorted⟩, hc, rfl⟩ := values_eq_ok.1 hx
  cases b <;> rw [values_flag rfl hc] <;> rfl

/-- Negation of an expression is that of its rows. -/
theorem values_not (hx : x.values fr .frame .empty = .ok (.ofFlags rows)) :
    (x.flag .not).values fr .frame .empty = .ok (.ofFlags (rows.map (Option.map Bool.not))) := by
  obtain ⟨⟨s, sorted⟩, hc, rfl⟩ := values_eq_ok.1 hx
  rw [values_flag rfl hc]
  rfl

/-- A reduction of truth values, which may ignore nulls, is the fold by an operator. -/
structure FoldsFlags (g : Bool → BooleanFunction) (c : Connective) (start : Bool) : Prop where
  /-- Its value is one row, the fold of the rows that count. -/
  fold (ignoreNulls : Bool) {fr : Frame} {x : Expr} {rows : List (Option Bool)}
    (hx : x.values fr .frame .empty = .ok (.ofFlags rows)) :
    ∃ value, (x.flag (g ignoreNulls)).values fr .frame .empty = .ok (.ofFlags [value]) ∧
      foldRows c start (heeded ignoreNulls rows) = .ok (.ofFlags [value])
  /-- The operator takes its values for two columns to the one for both, one after the other. -/
  append (ignoreNulls : Bool) {fr fr' fr'' : Frame} {x y z : Expr}
    {rows rows' : List (Option Bool)}
    (hx : x.values fr .frame .empty = .ok (.ofFlags rows))
    (hy : y.values fr' .frame .empty = .ok (.ofFlags rows'))
    (hz : z.values fr'' .frame .empty = .ok (.ofFlags (rows ++ rows'))) :
    ∃ s t u, (x.flag (g ignoreNulls)).values fr .frame .empty = .ok s ∧
      (y.flag (g ignoreNulls)).values fr' .frame .empty = .ok t ∧
      (z.flag (g ignoreNulls)).values fr'' .frame .empty = .ok u ∧
      s.combine (.logical c) .boolean t = .ok u

/-- Each of the two searches is the fold by the connective that it settles. -/
theorem foldsFlags_search (b : Bool) :
    FoldsFlags (BooleanFunction.search b) (settledBy b) (!b) where
  fold ignoreNulls fr x rows hx := by
    have hfold := Joins.foldl (.neutral (List.not_mem_nil (a := some b)) List.not_mem_nil)
      (heeded ignoreNulls rows)
    refine ⟨_, values_search b ignoreNulls hx, ?_⟩
    rw [foldRows_eq, hfold.unique (joins_search b ignoreNulls rows)]
  append ignoreNulls fr fr' fr'' x y z rows rows' hx hy hz := by
    have happend := (joins_search b ignoreNulls rows).append (joins_search b ignoreNulls rows')
    rw [← heeded_append] at happend
    refine ⟨_, _, _, values_search b ignoreNulls hx, values_search b ignoreNulls hy,
      values_search b ignoreNulls hz, ?_⟩
    rw [combine_logical_single, happend.unique (joins_search b ignoreNulls _)]

/-- **The reductions of truth values are folds**: whether any row is true, by disjunction from
false, and whether all rows are, by conjunction from true. The negation of the one is the other one
of the negated rows. -/
theorem foldsFlags_any_all :
    FoldsFlags .any .kleeneOr false ∧ FoldsFlags .all .kleeneAnd true ∧
    ∀ (ignoreNulls : Bool) {fr : Frame} {x : Expr} {rows : List (Option Bool)},
      x.values fr .frame .empty = .ok (.ofFlags rows) →
      ∃ s, ((x.flag (.any ignoreNulls)).flag .not).values fr .frame .empty = .ok s ∧
        ((x.flag .not).flag (.all ignoreNulls)).values fr .frame .empty = .ok s := by
  refine ⟨foldsFlags_search true, foldsFlags_search false, fun ignoreNulls fr x rows hx ↦ ?_⟩
  have hnot := (joins_search true ignoreNulls rows).not
  rw [← heeded_map_not] at hnot
  refine ⟨_, values_not (values_search true ignoreNulls hx), ?_⟩
  rw [List.map_singleton, hnot.unique (joins_search false ignoreNulls _)]
  exact values_search false ignoreNulls (values_not hx)

/-- Which of the houses along one side of a street are lit, where one could not be seen. -/
def houseFlags : List (Option Bool) := [some true, none, some false]

/-- The frame of the houses on one side. -/
def sideFrame : Frame := ⟨[⟨"lit", { series := .ofFlags houseFlags }⟩], rfl⟩

/-- Both sides of the street. -/
def streetFrame : Frame := ⟨[⟨"lit", { series := .ofFlags (houseFlags ++ houseFlags) }⟩], rfl⟩

/-- The column that tells which houses are lit. -/
def litColumn : Expr := node .boolean (.col "lit") []

/-- The lights along a street, and along both of its sides. -/
theorem foldsFlags_any_all_lit :
    litColumn.values sideFrame .frame .empty = .ok (.ofFlags houseFlags) ∧
    litColumn.values streetFrame .frame .empty = .ok (.ofFlags (houseFlags ++ houseFlags)) ∧
    (∃ value, (litColumn.flag (.all true)).values sideFrame .frame .empty =
        .ok (.ofFlags [value]) ∧
      foldRows .kleeneAnd true [some true, some false] = .ok (.ofFlags [value])) ∧
    (∃ s t u, (litColumn.flag (.any false)).values sideFrame .frame .empty = .ok s ∧
      (litColumn.flag (.any false)).values sideFrame .frame .empty = .ok t ∧
      (litColumn.flag (.any false)).values streetFrame .frame .empty = .ok u ∧
      s.combine (.logical .kleeneOr) .boolean t = .ok u) ∧
    ∃ s, ((litColumn.flag (.any false)).flag .not).values sideFrame .frame .empty = .ok s ∧
      ((litColumn.flag .not).flag (.all false)).values sideFrame .frame .empty = .ok s :=
  have hside : litColumn.values sideFrame .frame .empty = .ok (.ofFlags houseFlags) := rfl
  have hstreet : litColumn.values streetFrame .frame .empty =
    .ok (.ofFlags (houseFlags ++ houseFlags)) := rfl
  ⟨hside, hstreet, foldsFlags_any_all.2.1.fold true hside,
    foldsFlags_any_all.1.append false hside hside hstreet, foldsFlags_any_all.2.2 false hside⟩

end Expr

end Tabular
