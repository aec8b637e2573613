import Tabular.Proofs.Types.Result

/-!
# Declared types

The check of a node does not compare its declared type with what passes through it, so a sort can be
declared as a column of truth values over a column of numbers. `Expr.Typed` lists what it leaves
out: nodes that give a column of the type of one of their children declare that type, connectives
combine truth values, and no function of text is declared as null. Of the trees that pass the check
these are the ones whose declared types are borne out by evaluation
(`Expr.dtype_of_evaluate_typed`).

Evaluation bears out the type that `Expr.resultType` tells, whatever is declared, and so this is a
fact about types alone: what is told of a typed expression is what it declares
(`Expr.resultType_eq_dtype`).
-/

namespace Tabular

/-- Whether the declared type `d` of a node is that of its value, if the types of its children are
those that they declare. -/
def Kind.typed (k : Kind) (d : DataType) (types : List DataType) : Bool :=
  match k with
  | sort _ => types.head? = some d
  | sortBy _ => types.head? = some d
  | gather => types.head? = some d
  | filter => types.head? = some d
  | unaryFunction g => !g.keepsType || types.head? = some d
  | ternary => types[1]? = some d
  | booleanFunction .allHorizontal => types.all (· = .boolean)
  | booleanFunction .anyHorizontal => types.all (· = .boolean)
  | stringFunction _ => d ≠ .null
  | _ => true

/-- A typed node over children of their declared types has its declared type. -/
theorem Kind.resultType_of_typed {k : Kind} {d : DataType} {cs : List Expr}
    {types : List DataType} (hcheck : k.check d cs = .ok ()) (h : k.typed d types = true) :
    k.resultType d types = d := by
  have hhead (h : types.head? = some d) : ∃ rest, types = d :: rest := List.head?_eq_some_iff.1 h
  cases k with
  | sort _ | sortBy _ | gather | filter =>
    obtain ⟨rest, rfl⟩ := hhead (of_decide_eq_true h)
    rfl
  | ternary =>
    obtain ⟨t, rest, rfl⟩ : ∃ t rest, types = t :: d :: rest := by
      obtain _ | ⟨t, _ | ⟨t', rest⟩⟩ := types
      · cases h
      · cases h
      · obtain rfl : t' = d := Option.some.inj (of_decide_eq_true h)
        exact ⟨t, rest, rfl⟩
    rfl
  | unaryFunction g =>
    simp only [typed, Bool.or_eq_true, Bool.not_eq_true', decide_eq_true_eq] at h
    rcases h with h | h
    · cases types <;> simp only [resultType, h, Bool.false_eq_true, if_false]
    · obtain ⟨rest, rfl⟩ := hhead h
      exact ite_self _
  | stringFunction _ => exact if_neg (of_decide_eq_true h)
  | booleanFunction g =>
    obtain rfl := BooleanFunction.dtype_of_check hcheck
    -- A fold of a single column has that column's type, so the types of the children matter here.
    have hfold (h : types.all (· = .boolean) = true) :
        BooleanFunction.foldType types = .boolean := by
      obtain _ | ⟨t, _ | ⟨t', rest⟩⟩ := types
      · rfl
      · exact of_decide_eq_true (List.all_eq_true.1 h t (List.mem_singleton_self t))
      · rfl
    cases g with
    | allHorizontal | anyHorizontal => exact hfold h
    | _ => rfl
  | _ => rfl

namespace Expr

variable {f : Frame} {d : DataType} {k : Kind} {cs : List Expr} {e : Expr} {c : Column}

/-- Every node of the expression is typed. -/
def Typed (e : Expr) : Prop :=
  ∀ x ∈ e.nodes, x.kind.typed x.dtype (x.children.map dtype) = true

instance : Decidable e.Typed :=
  inferInstanceAs (Decidable (∀ x ∈ e.nodes, _ = true))

/-- A typed node has typed children, whose declared types give its own. -/
theorem typed_node : (node d k cs).Typed ↔
    k.typed d (cs.map dtype) = true ∧ ∀ c ∈ cs, c.Typed := by
  simp only [Typed, mem_nodes_node, forall_eq_or_imp, forall_exists_index, and_imp]
  exact and_congr_right fun _ ↦ ⟨fun h c hc x hx ↦ h x c hc hx, fun h x c hc hx ↦ h c hc x hx⟩

/-- What is told of a typed expression is what it declares. -/
theorem resultType_eq_dtype (he : e.WellFormed) (h : e.Typed) : e.resultType = e.dtype := by
  induction e using Expr.induction with
  | node d k cs ih =>
    obtain ⟨hcs, -, hcheck⟩ := he
    obtain ⟨hk, hchildren⟩ := typed_node.1 h
    have htypes : cs.map resultType = cs.map dtype :=
      List.map_congr_left fun x hx ↦ ih x hx (hcs x hx) (hchildren x hx)
    rw [resultType_node, htypes]
    exact Kind.resultType_of_typed hcheck hk

/-- What the nodes of a typed expression are computed from has the declared types. -/
theorem Typed.map_resultType (h : e.Typed) (he : e.WellFormed) {x : Expr} (hx : x ∈ e.nodes) :
    x.children.map resultType = x.children.map dtype := by
  induction e using Expr.induction with
  | node d k cs ih =>
    obtain ⟨hcs, -, -⟩ := he
    obtain ⟨-, hchildren⟩ := typed_node.1 h
    rcases mem_nodes_node.1 hx with rfl | ⟨c, hc, hx⟩
    · exact List.map_congr_left fun c hc ↦ resultType_eq_dtype (hcs c hc) (hchildren c hc)
    · exact ih c hc (hchildren c hc) (hcs c hc) hx

/-- **A typed expression evaluates to a column of its declared type**, over every frame that holds
its columns at theirs. -/
theorem dtype_of_evaluate_typed (he : e.WellFormed) (h : e.Typed) (hf : f.Declares e)
    (hc : e.evaluate f .frame .empty = .ok c) : c.dtype = e.dtype :=
  (dtype_evaluate he hf hc).trans (resultType_eq_dtype he h)

/-- A frame of levels, one of which is missing, and of what is known to be valid. -/
def levelsFrame : Frame :=
  ⟨[⟨"level", { series := ⟨.int64, [some 3, none, some 5].map fun i ↦ i.map (FixedInt.wrap _)⟩ }⟩,
    ⟨"valid", { series := .ofFlags [some true, some true, some false] }⟩], rfl⟩

/-- The column of the levels. -/
def levelColumn : Expr := node .int64 (.col "level") []

/-- Whether a level is there and valid. -/
def usable : Expr :=
  node .boolean (.booleanFunction .allHorizontal)
    [node .boolean (.booleanFunction .isNotNull) [levelColumn], node .boolean (.col "valid") []]

/-- The usable levels, after what is missing was filled with the number of rows. -/
def usableLevels : Expr :=
  node .int64 .filter
    [node .int64 (.unaryFunction .fillNull) [levelColumn, node .int64 .len []], usable]

/-- The usable levels are integers, as is declared. -/
theorem dtype_of_evaluate_typed_usableLevels :
    usableLevels.WellFormed ∧ usableLevels.Typed ∧ levelsFrame.Declares usableLevels ∧
      ∃ c, usableLevels.evaluate levelsFrame .frame .empty = .ok c ∧
        c.series = ⟨.int64, [some (FixedInt.wrap _ 3)]⟩ ∧ c.dtype = usableLevels.dtype := by
  have hformed : usableLevels.WellFormed := by decide
  have htyped : usableLevels.Typed := by decide
  have hdeclares : levelsFrame.Declares usableLevels := by decide
  exact ⟨hformed, htyped, hdeclares, _, rfl, rfl,
    dtype_of_evaluate_typed hformed htyped hdeclares rfl⟩

end Expr

end Tabular
