import Tabular.Expr.Evaluate
import Tabular.Proofs.Expr.Nodes

/-!
# Rebuilding expressions

A node can be built again with other children. It is then checked as if it were new: the check reads
the declared type, the kind and the new children, and nothing is left of the old ones
(`Expr.withChildren_of_build`). Nor does a node hold what is compiled from them, since the pattern
of a search is read off its own children whenever it is evaluated. A connective of truth values is
stored in Kleene's form, and that form is stored as it is.

So it makes no difference which children a node had in between (`Expr.withChildren_stable`). For a
whole tree the same follows by induction from the leaves up: children that were rebuilt as
themselves are the children that the node was accepted with, and it is accepted with them again
(`Expr.rebuildWith_eq`). What replaces a child on the way has to be an equal child, but it need not
be the same object.
-/

namespace Tabular

namespace Expr

variable {d : DataType} {k : Kind} {cs ds : List Expr} {e e₁ : Expr}

/-- What is built has the declared type, the kind in its stored form and the given children. -/
theorem build_eq_ok : build d k cs = .ok e ↔
    (k.normal d).check d cs = .ok () ∧ e = node d (k.normal d) cs := by
  rw [build, Outcome.bind_eq_ok]
  constructor
  · rintro ⟨_, hcheck, he⟩
    exact ⟨hcheck, Outcome.ok_eq_ok.1 he⟩
  · rintro ⟨hcheck, he⟩
    exact ⟨(), hcheck, Outcome.ok_eq_ok.2 he⟩

/-- The stored form of a kind is built like the kind itself. -/
@[simp]
theorem build_normal (d : DataType) (k : Kind) (cs : List Expr) :
    build d (k.normal d) cs = build d k cs := by
  rw [build, build, Kind.normal_idem]

/-- **Nothing is left of the old children**: a node built again with others is what its type and
kind give with them. -/
theorem withChildren_of_build (h : build d k cs = .ok e) (ds : List Expr) :
    e.withChildren ds = build d k ds := by
  obtain ⟨-, rfl⟩ := build_eq_ok.1 h
  exact build_normal d k ds

/-- Children in between make no difference. -/
theorem withChildren_withChildren (h : e.withChildren cs = .ok e₁) (ds : List Expr) :
    e₁.withChildren ds = e.withChildren ds :=
  withChildren_of_build h ds

/-! ### From the leaves up -/

mutual

/-- The expression rebuilt from the leaves up: its children are rebuilt and replaced by what
`replace` has for them, and the node is built again with these. -/
def rebuildWith (replace : Expr → Expr) : Expr → Outcome Expr
  | node d k cs => do (node d k cs).withChildren (← rebuildAllWith replace cs)

/-- The replacements of the rebuilt expressions. -/
def rebuildAllWith (replace : Expr → Expr) : List Expr → Outcome (List Expr)
  | [] => .ok []
  | c :: cs => do
    let c ← rebuildWith replace c
    .ok (replace c :: (← rebuildAllWith replace cs))

end

section Equal

variable {replace : Expr → Expr}

/-- Children that are rebuilt and replaced as themselves are the children. -/
theorem rebuildAllWith_eq (hreplace : ∀ c, replace c = c)
    (h : ∀ c ∈ cs, rebuildWith replace c = .ok c) : rebuildAllWith replace cs = .ok cs := by
  induction cs with
  | nil => rfl
  | cons c cs ih =>
    rw [rebuildAllWith, h c List.mem_cons_self, Outcome.ok_bind,
      ih fun x hx ↦ h x (List.mem_cons_of_mem _ hx), Outcome.ok_bind, hreplace]

/-- An accepted tree is rebuilt as it was. -/
theorem rebuildWith_eq (hreplace : ∀ c, replace c = c) (he : e.WellFormed) :
    rebuildWith replace e = .ok e := by
  induction e using Expr.induction with
  | node d k cs ih =>
    have hcs : ∀ c ∈ cs, c.WellFormed := by
      cases he with
      | node hcs _ _ => exact hcs
    rw [rebuildWith, rebuildAllWith_eq hreplace fun c hc ↦ ih c hc (hcs c hc), Outcome.ok_bind]
    exact rebuild_children he

end Equal

/-- **Rebuilding is stable.** An accepted expression built again with its own children is equal to
what it was. Built with some children and then with others, any expression is what the others give
at once, or fails as they do. And an accepted tree that is rebuilt from the leaves up, each child
replaced by one that tests equal, is again a tree that tests equal and has the same value over every
frame, in every context and under every mapping. -/
theorem withChildren_stable (he : e.WellFormed) :
    (∃ e', e.withChildren e.children = .ok e' ∧ e'.same e = true) ∧
    (∀ cs ds e₁, e.withChildren cs = .ok e₁ → e₁.withChildren ds = e.withChildren ds) ∧
    (∀ replace : Expr → Expr, (∀ c, (replace c).same c = true) →
      ∃ e', e.rebuildWith replace = .ok e' ∧ e'.same e = true ∧
        ∀ f context m, e'.evaluate f context m = e.evaluate f context m) := by
  refine ⟨⟨e, rebuild_children he, same_refl e⟩,
    fun cs ds e₁ h ↦ withChildren_withChildren h ds, fun replace hreplace ↦ ?_⟩
  have hsame : ∀ c, replace c = c := fun c ↦ same_iff.1 (hreplace c)
  exact ⟨e, rebuildWith_eq hsame he, same_refl e, fun f context m ↦ rfl⟩

/-- The names that match a pattern. -/
def matching (pattern : String) : Expr :=
  node .boolean (.stringFunction (.contains false true))
    [node .utf8 (.col "name") [], node .utf8 (.literal (.text pattern)) []]

/-- A search that was given another pattern and then its own again is the search it was. -/
theorem withChildren_stable_matching :
    (matching "a+").WellFormed ∧
      (matching "a+").withChildren (matching "b?").children = .ok (matching "b?") ∧
        ∃ e, (matching "b?").withChildren (matching "a+").children = .ok e ∧
          e.same (matching "a+") = true := by
  have h : (matching "a+").WellFormed := by decide +kernel
  have hother : (matching "b?").WellFormed := by decide +kernel
  have hbuild : (matching "a+").withChildren (matching "b?").children = .ok (matching "b?") :=
    rebuild_children hother
  obtain ⟨⟨e, he, hsame⟩, hstable, -⟩ := withChildren_stable h
  exact ⟨h, hbuild, e, (hstable _ _ _ hbuild).trans he, hsame⟩

end Expr

end Tabular
