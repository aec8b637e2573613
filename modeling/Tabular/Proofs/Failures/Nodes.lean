import Tabular.Proofs.Failures.Functions

/-!
# Failures of expressions

Whether an expression is implemented (`Expr.Implemented`), and whether its tests of truth values get
such values (`Expr.GetsFlags`), is read off the expression: from the types that its parts have by
`Expr.resultType`, at the nodes that evaluation comes to. Over every frame that holds the columns at
their declared types these two conditions decide the two kinds of failure that are no matter of the
rows (`Expr.decidedBy_evaluate`).

This is an induction over the tree. What it needs at a node is that the types of the columns of the
children decide (`Expr.decidedBy_evaluateNode`), and that these types are known before evaluation,
which they are by `Expr.dtype_evaluate`. Evaluation does not come to all children: a test for
finiteness of integers does without, and a literal filler is not evaluated as a column. The
conditions of a node do not ask for more than the children that it reads (`Kind.implements_take`,
`Kind.getsFlags_take`).
-/

namespace Tabular

open Outcome

/-! ### One node -/

namespace Kind

/-- Whether a node that declares `d` is implemented over children of the types. -/
def implements (k : Kind) (d : DataType) (types : List DataType) : Bool :=
  match k, types with
  | len, _ => DataType.int64.canCast d
  | booleanFunction g, types => g.implements types
  | stringFunction g, _ => g.implements d
  | temporalFunction g, [t] => g.implements d t
  | unaryFunction g, t :: _ => g.implements d t
  | agg g, t :: _ => g.implements d t
  | cast, [t] => t.canCast d
  | binOp op, [l, r] => op.supports d l r
  | _, _ => true

/-- Whether a node gets truth values from children of the types if it needs them. -/
def getsFlags (k : Kind) (types : List DataType) : Bool :=
  match k with
  | booleanFunction g => g.getsFlags types
  | _ => true

variable {k : Kind} {d : DataType} {cs : List Expr} {columns : List Column}

/-- The children that evaluation reads decide. -/
theorem implements_take (k : Kind) (d : DataType) (cs : List Expr) (type : Expr → DataType) :
    k.implements d ((cs.take (k.reads cs)).map type) = k.implements d (cs.map type) := by
  cases k with
  | literal _ | literalColumn _ | col _ | len | stringFunction _ => rfl
  | booleanFunction g =>
    simp only [reads]
    split
    · rw [List.take_length]
    · next hreads =>
      -- only the tests for finiteness can do without their child
      cases g <;> first | rfl | exact absurd (List.all_eq_true.2 fun _ _ ↦ rfl) hreads
  | unaryFunction g =>
    cases cs with
    | nil => rw [List.take_nil]
    | cons c cs =>
      cases g with
      | fillNull =>
        simp only [reads]
        split <;> rfl
      | _ => rfl
  | agg g => cases cs <;> rfl
  | _ => simp only [reads, List.take_length]

/-- Nor do the conditions about truth values ask for more. -/
theorem getsFlags_take (k : Kind) (cs : List Expr) (type : Expr → DataType) :
    k.getsFlags ((cs.take (k.reads cs)).map type) = k.getsFlags (cs.map type) := by
  cases k with
  | booleanFunction g =>
    simp only [reads]
    split
    · rw [List.take_length]
    · next hreads =>
      cases g <;> first | rfl | exact absurd (List.all_eq_true.2 fun _ _ ↦ rfl) hreads
  | _ => rfl

/-- A function of one column reads that column. -/
theorem reads_pos (g : UnaryFunction) (cs : List Expr) : 0 < (unaryFunction g).reads cs := by
  cases g with
  | fillNull =>
    simp only [reads]
    split <;> decide
  | _ => exact Nat.one_pos

/-- The number of children of the kinds that look at a fixed number of them. -/
def arity? : Kind → Option Nat
  | temporalFunction _ => some 1
  | sort _ => some 1
  | gather => some 2
  | filter => some 2
  | cast => some 1
  | ternary => some 3
  | binOp _ => some 2
  | _ => none

/-- The check counts the children of a kind that looks at a fixed number. -/
theorem length_of_check {n : Nat} (hn : k.arity? = some n) (hcheck : k.check d cs = .ok ()) :
    cs.length = n := by
  cases k <;> cases hn
  case sort | ternary => exact checkArity_eq_ok.1 hcheck
  all_goals
    obtain ⟨_, h, -⟩ := Outcome.bind_eq_ok.1 hcheck
    exact checkArity_eq_ok.1 h

/-- A filter fails on data only, whatever its mask is. -/
theorem failsOnData_filterColumn (values mask : Column) :
    FailsOnData (filterColumn values mask) := by
  rw [filterColumn_eq_bind]
  refine FailsOnData.bind ?_ fun mask _ ↦ ?_
  · split
    · exact Series.failsOnData_broadcast _ _
    · exact .ok _
  · split
    · exact (Series.failsOnData_keep _ _).bind fun _ _ ↦ .ok _
    · exact .invalid _

end Kind

namespace Expr

variable {f : Frame} {k : Kind} {d : DataType} {cs : List Expr} {columns : List Column}

/-- The filler is there, as the check asks for two children. -/
theorem failsOnData_filler {t : DataType}
    (hcolumns : columns.length = (Kind.unaryFunction .fillNull).reads cs) :
    FailsOnData (UnaryFunction.filler t cs (columns.map .ok)) := by
  cases hfiller : (cs[1]?).bind literal? with
  | some v =>
    rw [UnaryFunction.filler_of_literal hfiller]
    exact v.failsOnData_toSeries t
  | none =>
    rw [Kind.reads, hfiller] at hcolumns
    obtain ⟨c, filler, rfl⟩ := List.length_eq_two.1 hcolumns
    rw [List.map_cons, List.map_cons, UnaryFunction.filler_of_none hfiller]
    exact .ok _

/-- **The types of the children decide about one node.** -/
theorem decidedBy_evaluateNode (hcheck : k.check d cs = .ok ())
    (hcolumns : columns.length = k.reads cs) :
    DecidedBy (k.implements d (columns.map Column.dtype) = true)
      (k.getsFlags (columns.map Column.dtype) = true)
      (evaluateNode f .frame d k cs (columns.map .ok)) := by
  cases k with
  | literal v =>
    exact .of_data ((v.failsOnData_toSeries d).bind fun _ _ ↦ .ok _) rfl rfl
  | literalColumn stored =>
    obtain ⟨_, -, h⟩ := Outcome.bind_eq_ok.1 hcheck
    exact .of_data (((Series.decidedBy_cast rfl d).failsOnData (requires_eq_ok.1 h) trivial).bind
      fun _ _ ↦ .ok _) rfl rfl
  | col name => exact .of_data (f.failsOnData_column name) rfl rfl
  | len =>
    exact ((Series.decidedBy_cast (s := Series.ofInt f.rows) rfl d).bind_data
      fun _ _ ↦ .ok _).congr Iff.rfl (by simp [Kind.getsFlags])
  | booleanFunction g =>
    simp only [evaluateNode]
    split
    · next hreads =>
      rw [Kind.reads, if_pos hreads] at hcolumns
      rw [Outcome.mapM_id_ok]
      exact (BooleanFunction.decidedBy_onColumns hcheck hcolumns).bind_data fun _ _ ↦ .ok _
    · next hreads =>
      -- only the tests for finiteness can do without their child
      cases g <;> first
        | exact .ok _ rfl rfl
        | exact absurd (List.all_eq_true.2 fun _ _ ↦ rfl) hreads
  | stringFunction g =>
    exact ((StringFunction.decidedBy_onColumns hcheck hcolumns).bind_data fun _ _ ↦ .ok _).congr
      Iff.rfl (by simp [Kind.getsFlags])
  | unaryFunction g =>
    obtain ⟨c, columns, rfl⟩ := List.exists_cons_of_length_pos (hcolumns ▸ Kind.reads_pos g cs)
    refine (UnaryFunction.decidedBy_onColumn fun hg ↦ ?_).congr Iff.rfl (by simp [Kind.getsFlags])
    subst hg
    exact failsOnData_filler hcolumns
  | agg g =>
    obtain ⟨c, rfl⟩ := List.length_eq_one_iff.1 hcolumns
    exact (AggFunction.decidedBy_onColumn hcheck c).congr Iff.rfl (by simp [Kind.getsFlags])
  | temporalFunction g =>
    obtain ⟨c, rfl⟩ := List.length_eq_one_iff.1 (hcolumns.trans (Kind.length_of_check rfl hcheck))
    refine ((g.decidedBy_onSeries c.series).bind fun s hs ↦
      (Series.decidedBy_cast (TemporalFunction.dtype_onSeries hs) d).bind_data
        fun _ _ ↦ .ok _).congr ?_ (by simp [Kind.getsFlags])
    exact (Bool.and_eq_true_iff (x := g.isDefinedOver c.dtype)).symm
  | sort options =>
    obtain ⟨c, rfl⟩ := List.length_eq_one_iff.1 (hcolumns.trans (Kind.length_of_check rfl hcheck))
    exact .of_data ((Series.failsOnData_sort _ _ _ _).bind fun _ _ ↦ .ok _) rfl rfl
  | sortBy options =>
    have hpos : 0 < columns.length := by
      rw [hcolumns]
      refine List.length_pos_iff.2 fun hcs ↦ ?_
      rw [hcs] at hcheck
      cases hcheck
    obtain ⟨values, keys, rfl⟩ := List.exists_cons_of_length_pos hpos
    simp only [evaluateNode, Outcome.mapM_id_ok, Outcome.ok_bind]
    exact .of_data ((Series.failsOnData_sortBy _ _ _ _ _).bind fun _ _ ↦ .ok _) rfl rfl
  | gather =>
    obtain ⟨values, indices, rfl⟩ :=
      List.length_eq_two.1 (hcolumns.trans (Kind.length_of_check rfl hcheck))
    exact .of_data ((Series.failsOnData_gather _ _).bind fun _ _ ↦ .ok _) rfl rfl
  | filter =>
    obtain ⟨values, mask, rfl⟩ :=
      List.length_eq_two.1 (hcolumns.trans (Kind.length_of_check rfl hcheck))
    exact .of_data (Kind.failsOnData_filterColumn _ _) rfl rfl
  | cast =>
    obtain ⟨c, rfl⟩ := List.length_eq_one_iff.1 (hcolumns.trans (Kind.length_of_check rfl hcheck))
    exact ((Series.decidedBy_cast (s := c.series) rfl d).bind_data fun _ _ ↦ .ok _).congr Iff.rfl
      (by simp [Kind.getsFlags])
  | ternary =>
    obtain ⟨mask, truthy, falsy, rfl⟩ :=
      List.length_eq_three.1 (hcolumns.trans (Kind.length_of_check rfl hcheck))
    exact .of_data ((Series.failsOnData_choose _ _ _).bind fun _ _ ↦ .ok _) rfl rfl
  | binOp op =>
    obtain ⟨l, r, rfl⟩ := List.length_eq_two.1 (hcolumns.trans (Kind.length_of_check rfl hcheck))
    exact ((Series.decidedBy_combine op d l.series r.series).bind_data fun _ _ ↦ .ok _).congr
      Iff.rfl (by simp [Kind.getsFlags])

/-- Every node that evaluation comes to is implemented over the types of its children. -/
def Implemented (e : Expr) : Prop :=
  ∀ x ∈ e.visited, x.kind.implements x.dtype (x.children.map resultType) = true

/-- Every test of truth values that evaluation comes to gets such values. -/
def GetsFlags (e : Expr) : Prop :=
  ∀ x ∈ e.visited, x.kind.getsFlags (x.children.map resultType) = true

variable {e : Expr}

instance : Decidable e.Implemented := inferInstanceAs (Decidable (∀ x ∈ e.visited, _ = true))

instance : Decidable e.GetsFlags := inferInstanceAs (Decidable (∀ x ∈ e.visited, _ = true))

/-- **Evaluation is decided by the expression alone**: over every frame that holds the columns at
their declared types, by the types at the nodes that it visits. -/
theorem decidedBy_evaluate (he : e.WellFormed) (hf : f.Declares e) :
    DecidedBy e.Implemented e.GetsFlags (e.evaluate f .frame .empty) := by
  induction e using Expr.induction with
  | node d k cs ih =>
    obtain ⟨hcs, -, hcheck⟩ := he
    have hchildren := DecidedBy.mapM fun c (hc : c ∈ cs.take (k.reads cs)) ↦
      ih c (List.mem_of_mem_take hc) (hcs c (List.mem_of_mem_take hc))
        (hf.child (List.mem_of_mem_take hc))
    rw [evaluate_eq_bind hcheck, Implemented, GetsFlags, forall_visited_node, forall_visited_node]
    refine (hchildren.bind fun columns hcolumns ↦ ?_).congr and_comm and_comm
    have htypes : columns.map Column.dtype = (cs.take (k.reads cs)).map resultType :=
      Outcome.map_eq_map_of_mapM hcolumns fun c hc col ↦
        dtype_evaluate (hcs c (List.mem_of_mem_take hc)) (hf.child (List.mem_of_mem_take hc))
    have hlen : columns.length = k.reads cs := by
      rw [← (Outcome.mapM_eq_ok.1 hcolumns).length_eq, List.length_take,
        Nat.min_eq_left (Kind.reads_le hcheck)]
    have hnode := decidedBy_evaluateNode (f := f) hcheck hlen
    rw [htypes, Kind.implements_take, Kind.getsFlags_take] at hnode
    exact hnode

end Expr

end Tabular
