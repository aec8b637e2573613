import Tabular.Proofs.Expr.Values

/-!
# Substitution of known columns

A mapping holds columns that are known beforehand, and evaluation takes the column of such an
expression as it is, wherever the expression stands. The mapping is *consistent* with a frame if
these are the columns that the expressions have over the frame. A consistent mapping saves work and
changes nothing else: neither rows nor claims of sortedness, nor which failure is met first. It is
the only kind of mapping that changes nothing, since an expression that is looked up is itself an
expression to evaluate (`Mapping.consistent_iff_evaluate_eq`).

Results may therefore be remembered as they come: what was evaluated under a consistent mapping is
what the empty one would have given, and a mapping that has it as well is consistent again
(`Mapping.Consistent.insert`).
-/

namespace Tabular

namespace Mapping

variable {m : Mapping} {f : Frame} {context : Context} {e : Expr} {c : Column}

/-- What the mapping knows of an expression is what the expression evaluates to. -/
def Consistent (m : Mapping) (f : Frame) (context : Context) : Prop :=
  ∀ e c, m.find? e = some c → e.evaluate f context .empty = .ok c

/-- Nothing is known wrongly where nothing is known. -/
theorem consistent_empty : empty.Consistent f context :=
  fun e c h ↦ by rw [find?_empty] at h; cases h

/-- Only the expression that is inserted is looked up differently. -/
theorem find?_insert (m : Mapping) (e x : Expr) (c : Column) :
    (m.insert e c).find? x = if e = x then some c else m.find? x := by
  by_cases h : e = x
  · rw [if_pos h, ← h, find?_insert_self]
  · have hsame : Expr.same e x = false := by
      rw [← Bool.not_eq_true, Expr.same_iff]
      exact h
    -- entries of the expression are not those of another that is looked up
    have hentries : (fun p : Expr × Column ↦ decide ((!Expr.same p.1 e) = true ∧
        Expr.same p.1 x = true)) = fun p ↦ Expr.same p.1 x := by
      funext p
      rw [Bool.eq_iff_iff, decide_eq_true_eq, Bool.not_eq_true', ← Bool.not_eq_true,
        Expr.same_iff, Expr.same_iff]
      exact ⟨And.right, fun hx ↦ ⟨fun he ↦ h (he.symm.trans hx), hx⟩⟩
    rw [if_neg h, find?, find?, insert, List.find?_cons, hsame]
    simp only [List.find?_filter, hentries]

/-- The column of an expression may be remembered once it is evaluated. -/
theorem Consistent.insert (h : m.Consistent f context)
    (hc : e.evaluate f context .empty = .ok c) : (m.insert e c).Consistent f context := by
  intro x c' hx
  rw [find?_insert] at hx
  split at hx
  · next he =>
    injection hx with hx
    exact he ▸ hx ▸ hc
  · exact h x c' hx

/-- **A consistent mapping is transparent**: every expression has the same column or the same
failure as without it. No other mapping is. -/
theorem consistent_iff_evaluate_eq : m.Consistent f context ↔
    ∀ e : Expr, e.evaluate f context m = e.evaluate f context .empty := by
  constructor
  · intro h e
    induction e using Expr.induction with
    | node d k cs ih =>
      rw [Expr.evaluate]
      cases hfind : m.find? (.node d k cs) with
      | some c => exact (h _ c hfind).symm
      | none =>
        -- a node sees its children through their outcomes alone
        rw [Expr.evaluate, find?_empty, Expr.evaluateAll_eq_map, Expr.evaluateAll_eq_map,
          List.map_congr_left ih]
  · rintro h ⟨d, k, cs⟩ c hfind
    rw [← h, Expr.evaluate, hfind]

/-- A column that was read is remembered. -/
example : ((empty.insert (.node .int64 (.col "n") []) { series := .ofInt 7 }).Consistent
    ⟨[⟨"n", { series := .ofInt 7 }⟩], rfl⟩ .frame) :=
  consistent_empty.insert rfl

end Mapping

end Tabular
