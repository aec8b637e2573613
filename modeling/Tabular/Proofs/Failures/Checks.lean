import Tabular.Proofs.Failures.Nodes
import Tabular.Proofs.Types.Declared

/-!
# What the checks of nodes leave to evaluation

The check of a node looks at the types that the children declare. It is meant to leave two kinds of
failure nothing to do: constructs that are not implemented, and states that should not occur. Both
do occur, because a declared type need not be the type of the value, and because some functions are
not checked against their types at all; but neither is ever a matter of the rows. Whether an
expression can fail in one of these ways shows before any data is seen
(`Expr.internal_decided_by_getsFlags`, `Expr.unsupported_decided_by_implemented`).

Both facts are read off one, that types alone decide about evaluation (`Expr.decidedBy_evaluate`).
The conditions in it speak of the types of values. Where these are the declared ones the condition
of truth values holds of every checked node, and so does that of casts and operators; the other
nodes are left to be looked at (`Expr.getsFlags_of_typed`, `Expr.implemented_of_typed`).

Each of the two facts comes with a tree of checked nodes that fails in its way.
-/

namespace Tabular

/-! ### Checked nodes over true types -/

namespace Kind

variable {k : Kind} {d : DataType} {cs : List Expr}

/-- A checked node gets the truth values that it needs if the children have their declared types. -/
theorem getsFlags_of_check (hcheck : k.check d cs = .ok ()) :
    k.getsFlags (cs.map Expr.dtype) = true := by
  cases k with
  | booleanFunction g =>
    have hflag {name : String} (h : BooleanFunction.check.flagChild name cs = .ok ()) :
        ∃ c, cs = [c] ∧ c.dtype = .boolean := by
      obtain ⟨_, hlen, h⟩ := Outcome.bind_eq_ok.1 h
      obtain ⟨c, rfl⟩ := List.length_eq_one_iff.1 (checkArity_eq_ok.1 hlen)
      exact ⟨c, rfl, of_decide_eq_true (requires_eq_ok.1 h)⟩
    obtain ⟨_, -, h⟩ := Outcome.bind_eq_ok.1 hcheck
    cases g with
    | any _ | all _ | not =>
      obtain ⟨c, rfl, hc⟩ := hflag h
      exact decide_eq_true hc
    | _ => rfl
  | _ => rfl

/-- A checked cast or operator is implemented if the children have their declared types. -/
theorem implements_of_check (hk : k = .cast ∨ ∃ op, k = .binOp op)
    (hcheck : k.check d cs = .ok ()) : k.implements d (cs.map Expr.dtype) = true := by
  obtain rfl | ⟨op, rfl⟩ := hk
  · obtain ⟨_, hlen, h⟩ := Outcome.bind_eq_ok.1 hcheck
    obtain ⟨c, rfl⟩ := List.length_eq_one_iff.1 (checkArity_eq_ok.1 hlen)
    exact requires_eq_ok.1 h
  · obtain ⟨_, hlen, h⟩ := Outcome.bind_eq_ok.1 hcheck
    obtain ⟨l, r, rfl⟩ := List.length_eq_two.1 (checkArity_eq_ok.1 hlen)
    exact requires_eq_ok.1 h

end Kind

namespace Expr

variable {f : Frame} {e : Expr}

/-- Where declared types are true, no test of truth values is let down. -/
theorem getsFlags_of_typed (he : e.WellFormed) (h : e.Typed) : e.GetsFlags := by
  intro x hx
  have hx := mem_nodes_of_mem_visited hx
  rw [h.map_resultType he hx]
  exact Kind.getsFlags_of_check (wellFormed_iff.1 he x hx).2

/-- Where declared types are true, casts and operators are implemented, and of the other nodes it
shows in their declared types. -/
theorem implemented_of_typed (he : e.WellFormed) (h : e.Typed)
    (hnodes : ∀ x ∈ e.visited, x.kind ≠ .cast → (∀ op, x.kind ≠ .binOp op) →
      x.kind.implements x.dtype (x.children.map dtype) = true) : e.Implemented := by
  intro x hvisited
  have hx := mem_nodes_of_mem_visited hvisited
  rw [h.map_resultType he hx]
  by_cases hk : x.kind = .cast ∨ ∃ op, x.kind = .binOp op
  · exact Kind.implements_of_check hk (wellFormed_iff.1 he x hx).2
  · obtain ⟨hcast, hop⟩ := not_or.1 hk
    exact hnodes x hvisited hcast (not_exists.1 hop)

/-! ### Failures that should not occur -/

/-- **Failures that should not occur are decided by the expression alone.** No node lacks the
children that its kind needs. If all tests of truth values get such values by the types of their
children, they do so over every frame that holds the columns at their declared types; and if not,
the expression has no value over any of these frames. -/
theorem internal_decided_by_getsFlags (he : e.WellFormed) (hf : f.Declares e) :
    (∀ kind, e.evaluate f .frame .empty ≠ .error (.malformed kind)) ∧
      (e.GetsFlags → ∀ err, e.evaluate f .frame .empty = .error err → err.isInternal = false) ∧
      (¬e.GetsFlags → ∀ c, e.evaluate f .frame .empty ≠ .ok c) := by
  have hdecided := decidedBy_evaluate he hf
  refine ⟨hdecided.ne_malformed, fun hflags err h ↦ ?_,
    fun hflags c h ↦ hflags (hdecided.of_ok c h).2⟩
  cases err with
  | notBoolean d => exact absurd hflags (hdecided.not_of_notBoolean d h)
  | malformed kind => exact absurd h (hdecided.ne_malformed kind)
  | _ => rfl

/-- Whether any level is usable. -/
def anyUsable : Expr := node .boolean (.booleanFunction (.any true)) [usable]

/-- The test of a column of truth values needs nothing more. -/
theorem internal_decided_by_getsFlags_anyUsable :
    anyUsable.WellFormed ∧ levelsFrame.Declares anyUsable ∧ anyUsable.GetsFlags ∧
      ∀ err, anyUsable.evaluate levelsFrame .frame .empty = .error err →
        err.isInternal = false := by
  have hformed : anyUsable.WellFormed := by decide
  have hdeclares : levelsFrame.Declares anyUsable := by decide
  have hflags : anyUsable.GetsFlags := by decide
  exact ⟨hformed, hdeclares, hflags,
    (internal_decided_by_getsFlags hformed hdeclares).2.1 hflags⟩

/-- Whether any of the valid levels is true: they are numbers that are declared as truth values. -/
def anyValid : Expr :=
  node .boolean (.booleanFunction (.any true))
    [node .boolean .filter [levelColumn, node .boolean (.col "valid") []]]

/-- **A failure that should not occur does**: a filter is not checked against the type of what it
filters, and the test above it meets the numbers. -/
theorem internal_evaluate_anyValid :
    anyValid.WellFormed ∧ levelsFrame.Declares anyValid ∧
      anyValid.evaluate levelsFrame .frame .empty = .error (.notBoolean .int64) ∧
      (Error.notBoolean .int64).isInternal = true :=
  ⟨by decide, by decide, rfl, rfl⟩

/-! ### Failures of what is not implemented -/

/-- **What is not implemented is decided by the expression alone.** If every node that evaluation
comes to is implemented over the types of its children, evaluation never fails for want of an
implementation, over any frame that holds the columns at their declared types; and if some node is
not, the expression has no value over any of these frames. -/
theorem unsupported_decided_by_implemented (he : e.WellFormed) (hf : f.Declares e) :
    (e.Implemented → ∀ cause, e.evaluate f .frame .empty ≠ .error (.unsupported cause)) ∧
      (¬e.Implemented → ∀ c, e.evaluate f .frame .empty ≠ .ok c) := by
  have hdecided := decidedBy_evaluate he hf
  exact ⟨fun himplemented cause h ↦ hdecided.not_of_unsupported cause h himplemented,
    fun himplemented c h ↦ himplemented (hdecided.of_ok c h).1⟩

/-- The sines of the levels, as numbers of the given type. -/
def sines (d : DataType) : Expr := node d (.unaryFunction (.math .sin)) [levelColumn]

/-- Sines of floating-point numbers are implemented. -/
theorem unsupported_decided_by_implemented_sines :
    (sines .float64).WellFormed ∧ levelsFrame.Declares (sines .float64) ∧
      (sines .float64).Implemented ∧
      ∀ cause, (sines .float64).evaluate levelsFrame .frame .empty ≠
        .error (.unsupported cause) := by
  have hformed : (sines .float64).WellFormed := by decide
  have hdeclares : levelsFrame.Declares (sines .float64) := by decide
  have himplemented : (sines .float64).Implemented := by decide
  exact ⟨hformed, hdeclares, himplemented,
    (unsupported_decided_by_implemented hformed hdeclares).1 himplemented⟩

/-- **What passes the check need not be implemented**: a sine is declared to be an integer, which is
found out when it is computed. -/
theorem unsupported_evaluate_sines :
    (sines .int64).WellFormed ∧ levelsFrame.Declares (sines .int64) ∧
      (sines .int64).evaluate levelsFrame .frame .empty =
        .error (.unsupported (.undefinedOver "sin" .int64)) :=
  ⟨by decide, by decide, rfl⟩

end Expr

end Tabular
