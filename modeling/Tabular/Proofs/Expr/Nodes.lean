import Tabular.Expr.Collect
import Tabular.Proofs.Outcome

/-!
# The nodes of an expression

An expression is a tree whose nodes hold lists of children. The recursor of such a type has a second
motive for the lists; `Expr.induction` does without, by a hypothesis for every child, and is the
induction that proofs about trees use.

Properties that are asked of every node of a tree are stated over the list of its nodes, which holds
the tree itself and the nodes of its children (`Expr.mem_nodes_node`). Whether a tree was built from
the leaves up, and whether a frame holds the columns at the types that the tree declares, are such
properties, and so they can be decided (`Expr.wellFormed_iff`, `Frame.declares_iff`).
-/

namespace Tabular

namespace Expr

/-- **Induction over trees**: what holds of a node as soon as it holds of its children holds of
every expression. -/
@[elab_as_elim]
theorem induction {P : Expr → Prop}
    (node : ∀ d k cs, (∀ c ∈ cs, P c) → P (node d k cs)) (e : Expr) : P e :=
  Expr.rec node (fun _ h ↦ nomatch h)
    (fun _ _ hc hcs _ hx ↦ (List.mem_cons.1 hx).elim (fun h ↦ h ▸ hc) (hcs _)) e

mutual

/-- The expression itself and every expression below it. -/
def nodes : Expr → List Expr
  | node d k cs => node d k cs :: nodesAll cs

/-- The nodes of each of the expressions. -/
def nodesAll : List Expr → List Expr
  | [] => []
  | c :: cs => nodes c ++ nodesAll cs

end

/-- Every expression strictly below. -/
def descendants (e : Expr) : List Expr := nodesAll e.children

/-- The nodes of several expressions are those of each of them. -/
theorem mem_nodesAll {x : Expr} {cs : List Expr} :
    x ∈ nodesAll cs ↔ ∃ c ∈ cs, x ∈ c.nodes := by
  induction cs with
  | nil => simp [nodesAll]
  | cons c cs ih => simp [nodesAll, ih]

/-- A node of a tree is the tree itself or a node of a child. -/
theorem mem_nodes_node {x : Expr} {d : DataType} {k : Kind} {cs : List Expr} :
    x ∈ (node d k cs).nodes ↔ x = node d k cs ∨ ∃ c ∈ cs, x ∈ c.nodes := by
  rw [nodes, List.mem_cons, mem_nodesAll]

/-- A node strictly below is a node of a child. -/
theorem mem_descendants_node {x : Expr} {d : DataType} {k : Kind} {cs : List Expr} :
    x ∈ (node d k cs).descendants ↔ ∃ c ∈ cs, x ∈ c.nodes :=
  mem_nodesAll

/-- A tree is a node of itself. -/
theorem mem_nodes_self (e : Expr) : e ∈ e.nodes := by
  cases e with
  | node d k cs => exact mem_nodes_node.2 (.inl rfl)

/-- A tree is built from the leaves up exactly if each of its nodes passes the check. -/
theorem wellFormed_iff {e : Expr} : e.WellFormed ↔
    ∀ x ∈ e.nodes, x.kind.normal x.dtype = x.kind ∧ x.kind.check x.dtype x.children = .ok () := by
  induction e using Expr.induction with
  | node d k cs ih =>
    constructor
    · rintro ⟨hcs, hnormal, hcheck⟩ x hx
      rcases mem_nodes_node.1 hx with rfl | ⟨c, hc, hx⟩
      · exact ⟨hnormal, hcheck⟩
      · exact (ih c hc).1 (hcs c hc) x hx
    · intro h
      obtain ⟨hnormal, hcheck⟩ := h _ (mem_nodes_self _)
      exact .node (fun c hc ↦ (ih c hc).2 fun x hx ↦ h x (mem_nodes_node.2 (.inr ⟨c, hc, hx⟩)))
        hnormal hcheck

instance {e : Expr} : Decidable e.WellFormed :=
  decidable_of_iff (∀ x ∈ e.nodes, x.kind.normal x.dtype = x.kind ∧
    (x.kind.check x.dtype x.children).isOk = true) (by
      simp only [wellFormed_iff, Outcome.isOk_iff])

end Expr

/-- The frame holds the columns of the expression at their declared types. A column that the frame
does not have is no matter of types. -/
def Frame.Declares (f : Frame) (e : Expr) : Prop :=
  ∀ x ∈ e.nodes, ∀ name, x.kind = .col name → ∀ c, f.column name = .ok c → c.dtype = x.dtype

namespace Frame

variable {f : Frame} {d : DataType} {k : Kind} {cs : List Expr}

/-- What a node declares: its own type if it is a column, and what its children declare. -/
theorem declares_node : f.Declares (.node d k cs) ↔
    (∀ name, k = .col name → ∀ c, f.column name = .ok c → c.dtype = d) ∧
      ∀ c ∈ cs, f.Declares c := by
  simp only [Declares, Expr.mem_nodes_node, forall_eq_or_imp, forall_exists_index, and_imp]
  exact and_congr_right fun _ ↦ ⟨fun h c hc x hx ↦ h x c hc hx, fun h x c hc hx ↦ h c hc x hx⟩

/-- What is declared below is declared by the whole. -/
theorem Declares.child (h : f.Declares (.node d k cs)) {c : Expr} (hc : c ∈ cs) : f.Declares c :=
  (declares_node.1 h).2 c hc

/-- Nodes other than columns declare nothing of their own. -/
theorem Declares.node (hk : ∀ name, k ≠ .col name) (hcs : ∀ c ∈ cs, f.Declares c) :
    f.Declares (.node d k cs) :=
  declares_node.2 ⟨fun name hname ↦ absurd hname (hk name), hcs⟩

/-- A column of the frame is declared by its own type. -/
theorem Declares.col {name : String} {c : Column} (hc : f.column name = .ok c) (hd : c.dtype = d) :
    f.Declares (.node d (.col name) []) := by
  refine declares_node.2 ⟨fun name' hname c' hc' ↦ ?_, nofun⟩
  injection hname with hname
  rw [← hname, hc] at hc'
  injection hc' with hc'
  exact hc' ▸ hd

/-- Whether a node, if it is a column that the frame has, declares the type of that column. -/
def declaresNode (f : Frame) (x : Expr) : Bool :=
  match x.kind with
  | .col name =>
    match f.column name with
    | .ok c => c.dtype = x.dtype
    | .error _ => true
  | _ => true

/-- What is declared can be read off the nodes one by one. -/
theorem declares_iff {e : Expr} : f.Declares e ↔ ∀ x ∈ e.nodes, f.declaresNode x = true := by
  refine forall₂_congr fun x _ ↦ ?_
  unfold declaresNode
  split
  · next name hkind =>
    split
    · next c hc => simp [hkind, hc]
    · next err hc => simp [hkind, hc]
  · next hkind => exact ⟨fun _ ↦ rfl, fun _ name hname ↦ (hkind name hname).elim⟩

instance {e : Expr} : Decidable (f.Declares e) := decidable_of_iff _ declares_iff.symm

end Frame

end Tabular
