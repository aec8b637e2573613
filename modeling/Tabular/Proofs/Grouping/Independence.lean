import Tabular.Proofs.Grouping.Evaluation
import Tabular.Proofs.Requests.Nesting

/-!
# Expressions side by side

The expressions of a grouping share the frame of the results and the mapping, so one of them could
see what was requested for another. This module compares two groupings of the same rows that have an
expression in common.

Where the search for requests goes, it meets what both groupings have requested, with the same
answers. But it passes over what nulls are filled from, unlike the operands of a binary operation. A
filler is evaluated over the results as it is: a column or a reduction in it is found only if
another expression has requested it, and its evaluation fails otherwise; the number of rows is that
of the frame of the results, the number of groups, unless another expression has requested the sizes
of the groups.

So the column of an expression is the same in both groupings if the numbers of rows and the binary
operations that occur in what was passed over are requested in both or in neither
(`GroupBy.Undisturbed`, `GroupBy.column_eq_of_undisturbed`). In general it is not: an expression
that fills nulls with the number of rows depends on what stands beside it
(`GroupBy.not_column_eq_firstOrSize`).

The comparison is one of values, not of outcomes. A node that is found in one grouping alone may
fail in the other, and then there is nothing to compare; so two evaluations are only asked to be
compatible, to give one value if both of them give one. This is preserved from the children to a
node if the node is looked up alike (`Expr.compatible_evaluate`).
-/

namespace Tabular

/-! ### Compatible outcomes -/

namespace Outcome

variable {α β : Type} {x y : Outcome α}

/-- Two outcomes give the same value if both of them give one. -/
def Compatible (x y : Outcome α) : Prop := ∀ a b, x = .ok a → y = .ok b → a = b

theorem Compatible.refl (x : Outcome α) : Compatible x x := by
  intro a b ha hb
  rw [ha] at hb
  injection hb

/-- Compatible values, and compatible computations on each of them. -/
theorem Compatible.bind {f g : α → Outcome β} (h : Compatible x y)
    (hfg : ∀ a, Compatible (f a) (g a)) : Compatible (x >>= f) (y >>= g) := by
  intro b b' hb hb'
  obtain ⟨a, ha, hb⟩ := bind_eq_ok.1 hb
  obtain ⟨a', ha', hb'⟩ := bind_eq_ok.1 hb'
  obtain rfl := h a a' ha ha'
  exact hfg a b b' hb hb'

/-- One computation on compatible values. -/
theorem Compatible.bind_right (h : Compatible x y) (f : α → Outcome β) :
    Compatible (x >>= f) (y >>= f) :=
  h.bind fun a ↦ .refl (f a)

/-- Compatible lists of outcomes. -/
theorem Compatible.mapM_id {xs ys : List (Outcome α)} (h : List.Forall₂ Compatible xs ys) :
    Compatible (xs.mapM id) (ys.mapM id) := by
  induction h with
  | nil => exact .refl _
  | cons hxy _ ih =>
    simp only [List.mapM_cons]
    exact Compatible.bind hxy fun a ↦ ih.bind_right _

end Outcome

open Outcome (Compatible)

/-! ### Evaluation over alike frames -/

section Nodes

variable {raw raw' : Frame} {context : Context} {m m' : Mapping} {d : DataType} {cs : List Expr}
  {columns columns' : List (Outcome Column)}

/-- A function of one column looks at one outcome besides, that of the filler. -/
theorem UnaryFunction.compatible_onColumn (f : UnaryFunction) (c : Column)
    (h : List.Forall₂ Compatible columns columns') :
    Compatible (f.onColumn d cs columns c) (f.onColumn d cs columns' c) := by
  cases f with
  | fillNull =>
    have hfiller : Compatible (filler c.dtype cs columns) (filler c.dtype cs columns') := by
      unfold filler
      cases (cs[1]?).bind Expr.literal? with
      | some v => exact .refl _
      | none =>
        rcases h with _ | ⟨_, _ | ⟨h, _⟩⟩
        · exact .refl _
        · exact .refl _
        · exact h.bind_right _
    exact hfiller.bind_right _
  | _ => exact .refl _

/-- A function of text looks at one outcome or two. -/
theorem StringFunction.compatible_onColumns (f : StringFunction)
    (h : List.Forall₂ Compatible columns columns') :
    Compatible (f.onColumns d cs columns) (f.onColumns d cs columns') := by
  unfold onColumns
  cases f.matchKind? with
  | some kind =>
    rcases h with _ | ⟨hc, _ | ⟨hneedle, _⟩⟩
    · exact .refl _
    · exact .refl _
    · exact hc.bind fun c ↦ hneedle.bind_right _
  | none =>
    cases h with
    | nil => exact .refl _
    | cons hc _ => exact hc.bind_right _

namespace Expr

/-- **A node on compatible children.** -/
theorem compatible_evaluateNode {k : Kind} (hrows : raw.rows = raw'.rows)
    (hcol : ∀ name, k = .col name → Compatible (raw.column name) (raw'.column name))
    (h : List.Forall₂ Compatible columns columns') :
    Compatible (evaluateNode raw context d k cs columns)
      (evaluateNode raw' context d k cs columns') := by
  cases k with
  | literal v => exact .refl _
  | literalColumn stored => exact .refl _
  | col name => exact hcol name rfl
  | len =>
    simp only [evaluateNode, hrows]
    exact .refl _
  | booleanFunction g =>
    simp only [evaluateNode, hrows]
    split
    · exact (Compatible.mapM_id h).bind_right fun columns ↦ g.onColumns columns >>= _
    · exact .refl _
  | stringFunction g => exact (StringFunction.compatible_onColumns g h).bind_right _
  | unaryFunction g =>
    cases h with
    | nil => exact .refl _
    | cons hc hcs => exact hc.bind fun c ↦ g.compatible_onColumn c (.cons hc hcs)
  | agg g =>
    simp only [evaluateNode]
    split
    · cases h with
      | nil => exact .refl _
      | cons hc _ => exact hc.bind_right _
    -- Within a group an aggregation is refused, on both sides alike.
    · exact .refl _
  | _ => exact (Compatible.mapM_id h).bind_right _

/-- The look-up of an expression gives the same column for both, or none for both. Where it gives
one for one of them only, the expression cannot be evaluated for the other. -/
def Alike (raw raw' : Frame) (m m' : Mapping) (x : Expr) : Prop :=
  match m.find? x, m'.find? x with
  | some c, some c' => c = c'
  | none, none => ∀ name, x.kind = .col name → Compatible (raw.column name) (raw'.column name)
  | some _, none => ∀ columns c,
      evaluateNode raw' .groupBy x.dtype x.kind x.children columns ≠ .ok c
  | none, some _ => ∀ columns c,
      evaluateNode raw .groupBy x.dtype x.kind x.children columns ≠ .ok c

/-- A node that is looked up alike, with compatible children. -/
theorem compatible_evaluate_node {k : Kind} (hrows : raw.rows = raw'.rows)
    (h : Alike raw raw' m m' (node d k cs))
    (hcs : ∀ c ∈ cs, Compatible (c.evaluate raw .groupBy m) (c.evaluate raw' .groupBy m')) :
    Compatible ((node d k cs).evaluate raw .groupBy m)
      ((node d k cs).evaluate raw' .groupBy m') := by
  unfold Alike at h
  rw [evaluate, evaluate]
  cases hm : m.find? (node d k cs) with
  | none =>
    cases hm' : m'.find? (node d k cs) with
    | none =>
      rw [hm, hm'] at h
      rw [evaluateAll_eq_map, evaluateAll_eq_map]
      refine compatible_evaluateNode hrows h ?_
      rw [List.forall₂_map_left_iff, List.forall₂_map_right_iff, List.forall₂_same]
      exact hcs
    | some c' =>
      rw [hm, hm'] at h
      -- One side is answered where the other evaluates. `Alike` allows that only if evaluating
      -- fails.
      exact fun c _ hc ↦ absurd hc (h _ c)
  | some c =>
    cases hm' : m'.find? (node d k cs) with
    | none =>
      rw [hm, hm'] at h
      exact fun _ c' _ hc' ↦ absurd hc' (h _ c')
    | some c' =>
      rw [hm, hm'] at h
      subst h
      exact .refl _

/-- **Over alike results an expression has one value at most.** -/
theorem compatible_evaluate {e : Expr} (hrows : raw.rows = raw'.rows)
    (h : ∀ x ∈ e.nodes, Alike raw raw' m m' x) :
    Compatible (e.evaluate raw .groupBy m) (e.evaluate raw' .groupBy m') := by
  induction e using Expr.induction with
  | node d k cs ih =>
    exact compatible_evaluate_node hrows (h _ (mem_nodes_self _)) fun c hc ↦
      ih c hc fun x hx ↦ h x (mem_nodes_node.2 (.inr ⟨c, hc, hx⟩))

end Expr

end Nodes

/-! ### What groupings know of their requests -/

namespace Expr

section Unentered

variable {d : DataType} {c l r : Expr} {cs : List Expr}

/-- Of a cast, a function and a binary operation the search enters one, one and two children. -/
theorem unentered_cast : (node d .cast (c :: cs)).unentered 0 = c.unentered 0 ++ cs.map (0, ·) := by
  simp [unentered, Kind.entered, Kind.depthBelow, unenteredAll, unenteredAll_zero]

theorem unentered_function {f : UnaryFunction} :
    (node d (.unaryFunction f) (c :: cs)).unentered 0 = c.unentered 0 ++ cs.map (0, ·) := by
  simp [unentered, Kind.entered, Kind.depthBelow, unenteredAll, unenteredAll_zero]

theorem unentered_binOp {op : BinaryOp} : (node d (.binOp op) (l :: r :: cs)).unentered 0 =
    (l.unentered 0 ++ r.unentered 0) ++ cs.map (0, ·) := by
  simp [unentered, Kind.entered, Kind.depthBelow, unenteredAll, unenteredAll_zero]

end Unentered

/-- Requests are made in the names of columns, numbers of rows, binary operations and reductions. -/
theorem Collects.owner_kind {e : Expr} {rs : List AggRequest} (h : Collects 0 e rs) {q : AggRequest}
    (hq : q ∈ rs) : (∃ name, q.owner.kind = .col name) ∨ q.owner.kind = .len ∨
      (∃ op, q.owner.kind = .binOp op) ∨ ∃ f, q.owner.kind = .agg f := by
  generalize hdepth : 0 = depth at h
  induction h with
  | literal | literalColumn => cases hq
  | functionBelow | binOpBelow => cases hdepth
  | cast _ ih | function _ _ _ ih => exact ih hq hdepth
  | col => exact .inl ⟨_, congrArg (kind ∘ AggRequest.owner) (List.mem_singleton.1 hq)⟩
  | len => exact .inr (.inl (congrArg (kind ∘ AggRequest.owner) (List.mem_singleton.1 hq)))
  | binOpLists =>
    exact .inr (.inr (.inl ⟨_, congrArg (kind ∘ AggRequest.owner) (List.mem_singleton.1 hq)⟩))
  | binOp _ _ _ _ ihl ihr => exact (List.mem_append.1 hq).elim (ihl · hdepth) (ihr · hdepth)
  | agg =>
    exact .inr (.inr (.inr ⟨_, congrArg (kind ∘ AggRequest.owner) (List.mem_singleton.1 hq)⟩))

end Expr

namespace GroupBy

variable {g g' : GroupBy} {f raw raw' : Frame} {groups : List (List Nat)}
  {results results' : List Series} {x : Expr}

/-- The grouping requests something in the name of the expression. -/
def Owns (g : GroupBy) (x : Expr) : Prop := ∃ q ∈ g.requests, q.owner = x

/-- The name is one of the frame of results. -/
def IsResultName (name : String) : Prop := name = "__groups" ∨ ∃ i, name = requestName i

/-- What is not requested is not found. -/
theorem find?_mapping_of_not_owns (h : ¬g.Owns x) : (g.mapping results).find? x = none := by
  cases hfind : (g.mapping results).find? x with
  | none => rfl
  | some c =>
    obtain ⟨p, hp, howner, -⟩ := exists_of_find?_mapping hfind
    exact absurd ⟨p.1, (List.of_mem_zip hp).1, howner⟩ h

/-- An expression in whose name something is requested makes this request alone. -/
theorem Owns.requests_eq (hx : g.Owns x) (hg : g.Planned) {rs : List AggRequest}
    (hrs : Expr.Collects 0 x rs) : ∃ q, rs = [q] ∧ q.owner = x := by
  obtain ⟨q, hq, rfl⟩ := hx
  exact ⟨q, hrs.unique (hg.owner hq), rfl⟩

/-- An operation that makes other requests than for lists of itself is not looked up. -/
theorem find?_mapping_of_operation (hg : g.Planned) {rs : List AggRequest}
    (hrs : Expr.Collects 0 x rs) (hx : x.kind.isOperation = true)
    (hlists : ∀ op, x.kind = .binOp op → rs.all (·.reduction.isCollectList) = false) :
    (g.mapping results).find? x = none := by
  refine find?_mapping_of_not_owns fun hown ↦ ?_
  obtain ⟨q, rfl, rfl⟩ := hown.requests_eq hg hrs
  rcases hrs.owner_kind (List.mem_singleton_self q) with ⟨_, hk⟩ | hk | ⟨op, hk⟩ | ⟨_, hk⟩
  · rw [hk] at hx
    cases hx
  · rw [hk] at hx
    cases hx
  · have hlist := hrs.isCollectList_of_operation (List.mem_singleton_self q) hx
    have hall := hlists op hk
    rw [List.all_cons, hlist] at hall
    cases hall
  · rw [hk] at hx
    cases hx

/-- What two groupings of the same rows both request has the same answer in both. -/
theorem find?_mapping_of_owns (hg : g.Planned) (hg' : g'.Planned)
    (h : g.results f groups = .ok results) (h' : g'.results f groups = .ok results')
    (hx : g.Owns x) (hx' : g'.Owns x) :
    ∃ c, (g.mapping results).find? x = some c ∧ (g'.mapping results').find? x = some c := by
  obtain ⟨q, hq, rfl⟩ := hx
  obtain ⟨q', hq', howner⟩ := hx'
  obtain rfl : q' = q := (hg'.owner hq').eq_of_owner_eq (hg.owner hq) (List.mem_singleton_self _)
    (List.mem_singleton_self _) howner
  obtain ⟨s, hs, hanswer⟩ := find?_mapping_owner hg h hq
  obtain ⟨s', hs', hanswer'⟩ := find?_mapping_owner hg' h' hq'
  rw [hanswer] at hanswer'
  injection hanswer' with hss
  exact ⟨_, hs, hss ▸ hs'⟩

/-! ### The frame of results -/

/-- The frame of results has no column under another name than those of results. -/
theorem column_resultFrame {n : Nat} (hraw : resultFrame results n = .ok raw) {name : String}
    (hname : ¬IsResultName name) (c : Column) : raw.column name ≠ .ok c := by
  intro hc
  have hmem := Frame.column_eq_ok hc
  unfold resultFrame at hraw
  split at hraw
  · rw [(Frame.ofColumns_eq_ok.1 hraw).2.2, List.mem_singleton] at hmem
    injection hmem with hmem
    exact hname (.inl hmem)
  · rw [(Frame.ofColumns_eq_ok.1 hraw).2.2] at hmem
    obtain ⟨p, -, hp⟩ := List.mem_map.1 hmem
    injection hp with hp
    exact hname (.inr ⟨p.2, hp.symm⟩)

/-- The frame of results has a row for each group. -/
theorem rows_resultFrame {n : Nat} (hraw : resultFrame results n = .ok raw)
    (hlen : ∀ s ∈ results, s.length = n) : raw.rows = n := by
  unfold resultFrame at hraw
  unfold Frame.rows
  split at hraw
  · rw [(Frame.ofColumns_eq_ok.1 hraw).2.2]
    exact List.length_replicate
  · rw [(Frame.ofColumns_eq_ok.1 hraw).2.2]
    cases results with
    | nil => contradiction
    | cons s results => exact hlen s List.mem_cons_self

/-! ### Undisturbed expressions -/

/-- The node is looked up alike in both groupings. It is no column of the frame of results, and
numbers of rows and binary operations are requested in both groupings or in neither. -/
def Undisturbed (g g' : GroupBy) (x : Expr) : Prop :=
  (∀ name, x.kind = .col name → ¬IsResultName name) ∧
    (x.kind = .len ∨ (∃ op, x.kind = .binOp op) → (g.Owns x ↔ g'.Owns x))

/-- An undisturbed node that one grouping requests and the other does not cannot be evaluated over
the results of the other. -/
theorem Undisturbed.evaluateNode_ne_ok (h : Undisturbed g g' x) (hg : g.Planned) (hx : g.Owns x)
    (hx' : ¬g'.Owns x) {n : Nat} (hraw' : resultFrame results' n = .ok raw')
    (columns : List (Outcome Column)) (c : Column) :
    Expr.evaluateNode raw' .groupBy x.dtype x.kind x.children columns ≠ .ok c := by
  obtain ⟨q, hq, rfl⟩ := hx
  rcases (hg.owner hq).owner_kind (List.mem_singleton_self _) with
    ⟨name, hkind⟩ | hkind | ⟨op, hkind⟩ | ⟨a, hkind⟩
  · rw [hkind]
    exact column_resultFrame hraw' (h.1 name hkind) c
  · exact absurd ((h.2 (.inl hkind)).1 ⟨q, hq, rfl⟩) hx'
  · exact absurd ((h.2 (.inr ⟨op, hkind⟩)).1 ⟨q, hq, rfl⟩) hx'
  · rw [hkind]
    nofun

/-- The groupings may be exchanged. -/
theorem Undisturbed.symm (h : Undisturbed g g' x) : Undisturbed g' g x :=
  ⟨h.1, fun hkind ↦ (h.2 hkind).symm⟩

/-- An operation that makes other requests than for lists of itself is looked up alike. -/
theorem alike_of_collects (hg : g.Planned) (hg' : g'.Planned) {d : DataType} {k : Kind}
    {cs : List Expr} {rs : List AggRequest} (hrs : Expr.Collects 0 (.node d k cs) rs)
    (hk : k.isOperation = true)
    (hlists : ∀ op, k = .binOp op → rs.all (·.reduction.isCollectList) = false) :
    Expr.Alike raw raw' (g.mapping results) (g'.mapping results') (.node d k cs) := by
  unfold Expr.Alike
  rw [find?_mapping_of_operation hg hrs hk hlists, find?_mapping_of_operation hg' hrs hk hlists]
  rintro name rfl
  cases hk

section Sides

variable {n : Nat} (hg : g.Planned) (hg' : g'.Planned) (h : g.results f groups = .ok results)
  (h' : g'.results f groups = .ok results') (hraw : resultFrame results n = .ok raw)
  (hraw' : resultFrame results' n = .ok raw')

include hg hg' h h' hraw hraw'

/-- What is undisturbed is looked up alike. -/
theorem Undisturbed.alike (hx : Undisturbed g g' x) :
    Expr.Alike raw raw' (g.mapping results) (g'.mapping results') x := by
  unfold Expr.Alike
  by_cases hown : g.Owns x
  · by_cases hown' : g'.Owns x
    · obtain ⟨c, hc, hc'⟩ := find?_mapping_of_owns hg hg' h h' hown hown'
      rw [hc, hc']
    · rw [find?_mapping_of_not_owns hown']
      obtain ⟨q, hq, rfl⟩ := hown
      obtain ⟨s, hs, -⟩ := find?_mapping_owner hg h hq
      rw [hs]
      exact hx.evaluateNode_ne_ok hg ⟨q, hq, rfl⟩ hown' hraw'
  · rw [find?_mapping_of_not_owns hown]
    by_cases hown' : g'.Owns x
    · obtain ⟨q, hq, rfl⟩ := hown'
      obtain ⟨s, hs, -⟩ := find?_mapping_owner hg' h' hq
      rw [hs]
      exact hx.symm.evaluateNode_ne_ok hg' ⟨q, hq, rfl⟩ hown hraw
    · rw [find?_mapping_of_not_owns hown']
      exact fun name hname c _ hc ↦ absurd hc (column_resultFrame hraw (hx.1 name hname) c)

/-- **An expression that is requested in both groupings has one value at most** over their results,
if nothing that was passed over is disturbed. -/
theorem compatible_of_collects (hrows : raw.rows = raw'.rows) {e : Expr} {rs : List AggRequest}
    (hrs : Expr.Collects 0 e rs) (hmem : ∀ q ∈ rs, q ∈ g.requests)
    (hmem' : ∀ q ∈ rs, q ∈ g'.requests)
    (hpassed : ∀ p ∈ e.unentered 0, p.1 = 0 → ∀ y ∈ p.2.nodes, Undisturbed g g' y) :
    Compatible (e.evaluate raw .groupBy (g.mapping results))
      (e.evaluate raw' .groupBy (g'.mapping results')) := by
  -- An owner is answered by its request in both groupings, and by the same column.
  have howned {q : AggRequest} (hq : q ∈ g.requests) (hq' : q ∈ g'.requests) :
      Compatible (q.owner.evaluate raw .groupBy (g.mapping results))
        (q.owner.evaluate raw' .groupBy (g'.mapping results')) := by
    obtain ⟨c, hc, hc'⟩ := find?_mapping_of_owns hg hg' h h' ⟨q, hq, rfl⟩ ⟨q, hq', rfl⟩
    cases howner : q.owner with
    | node d k cs =>
      rw [howner] at hc hc'
      rw [Expr.evaluate, Expr.evaluate, hc, hc']
      exact .refl _
  -- What the search passes over is evaluated afresh, and sees the same rows on both sides.
  have hpass {c : Expr} (hc : ∀ y ∈ c.nodes, Undisturbed g g' y) :
      Compatible (c.evaluate raw .groupBy (g.mapping results))
        (c.evaluate raw' .groupBy (g'.mapping results')) :=
    Expr.compatible_evaluate hrows fun y hy ↦ (hc y hy).alike hg hg' h h' hraw hraw'
  -- A node that the search enters owns no request, so that both sides evaluate it.
  have hnode {d : DataType} {k : Kind} {cs : List Expr} {rs : List AggRequest}
      (hrs : Expr.Collects 0 (.node d k cs) rs) (hk : k.isOperation = true)
      (hlists : ∀ op, k = .binOp op → rs.all (·.reduction.isCollectList) = false)
      (hcs : ∀ c ∈ cs, Compatible (c.evaluate raw .groupBy (g.mapping results))
        (c.evaluate raw' .groupBy (g'.mapping results'))) :=
    Expr.compatible_evaluate_node hrows
      (alike_of_collects hg hg' hrs hk hlists) hcs
  -- Induction on the rules of the search; for this the depth has to be a variable.
  generalize hdepth : 0 = depth at hrs
  induction hrs with
  | functionBelow | binOpBelow => cases hdepth
  | col | len | binOpLists | agg =>
    exact howned (hmem _ (List.mem_singleton_self _)) (hmem' _ (List.mem_singleton_self _))
  | literal =>
    refine hnode .literal rfl (by rintro _ ⟨⟩) fun c hc ↦
      hpass (hpassed (0, c) ?_ rfl)
    subst hdepth
    simpa [Expr.unentered, Kind.entered, Kind.depthBelow, Expr.unenteredAll_zero] using hc
  | literalColumn =>
    refine hnode .literalColumn rfl (by rintro _ ⟨⟩) fun c hc ↦
      hpass (hpassed (0, c) ?_ rfl)
    subst hdepth
    simpa [Expr.unentered, Kind.entered, Kind.depthBelow, Expr.unenteredAll_zero] using hc
  | cast hc ih =>
    subst hdepth
    simp only [Expr.unentered_cast, List.mem_append, or_imp, forall_and] at hpassed
    refine hnode (.cast hc) rfl (by rintro _ ⟨⟩) (List.forall_mem_cons.2 ⟨?_, ?_⟩)
    · exact ih hmem hmem' hpassed.1 rfl
    · exact fun c hc ↦ hpass (hpassed.2 (0, c) (List.mem_map_of_mem hc) rfl)
  | function hf hdepth' hc ih =>
    subst hdepth
    simp only [Expr.unentered_function, List.mem_append, or_imp, forall_and] at hpassed
    refine hnode (.function hf hdepth' hc) rfl (by rintro _ ⟨⟩)
      (List.forall_mem_cons.2 ⟨?_, ?_⟩)
    · exact ih hmem hmem' hpassed.1 rfl
    · exact fun c hc ↦ hpass (hpassed.2 (0, c) (List.mem_map_of_mem hc) rfl)
  | binOp hdepth' hl hr hall ihl ihr =>
    subst hdepth
    simp only [Expr.unentered_binOp, List.mem_append, or_imp, forall_and] at hpassed
    refine hnode (.binOp hdepth' hl hr hall) rfl (fun _ _ ↦ hall)
      (List.forall_mem_cons.2 ⟨?_, List.forall_mem_cons.2 ⟨?_, ?_⟩⟩)
    · exact ihl (fun q hq ↦ hmem q (List.mem_append_left _ hq))
        (fun q hq ↦ hmem' q (List.mem_append_left _ hq)) hpassed.1.1 rfl
    · exact ihr (fun q hq ↦ hmem q (List.mem_append_right _ hq))
        (fun q hq ↦ hmem' q (List.mem_append_right _ hq)) hpassed.1.2 rfl
    · exact fun c hc ↦ hpass (hpassed.2 (0, c) (List.mem_map_of_mem hc) rfl)

end Sides

/-- **The column of an expression that nothing disturbs does not depend on the expressions beside
it**: two groupings by the same keys that both succeed give it the same column, with the same claim
about its order. -/
theorem column_eq_of_undisturbed {keys aggs aggs' : List NamedExpr} {maintainOrder : Bool}
    {out out' : Frame} {a : NamedExpr} (hplan : plan keys aggs maintainOrder = .ok g)
    (hplan' : plan keys aggs' maintainOrder = .ok g') (ha : a ∈ aggs) (ha' : a ∈ aggs')
    (hpassed : ∀ p ∈ a.value.unentered 0, p.1 = 0 → ∀ y ∈ p.2.nodes, Undisturbed g g' y)
    (hout : g.evaluate f = .ok out) (hout' : g'.evaluate f = .ok out') :
    ∃ c, out.column a.name = .ok c ∧ out'.column a.name = .ok c := by
  obtain ⟨hkeys, rfl, horder, hg⟩ := planned_of_plan hplan
  obtain ⟨hkeys', rfl, horder', hg'⟩ := planned_of_plan hplan'
  obtain ⟨ks, groups, results, raw, columns, hks, hgroups, hresults, hraw, hcolumns, hframe⟩ :=
    evaluate_eq_ok.1 hout
  obtain ⟨ks', groups', results', raw', columns', hks', hgroups', hresults', hraw', hcolumns',
    hframe'⟩ := evaluate_eq_ok.1 hout'
  -- keys and groups are the same, and so is the number of results
  obtain rfl : ks = ks' := by
    rw [keySeries, hkeys] at hks
    rw [keySeries, hkeys', hks] at hks'
    injection hks'
  obtain rfl : groups = groups' := by
    rw [horder] at hgroups
    rw [horder', hgroups] at hgroups'
    injection hgroups'
  have hrows : raw.rows = raw'.rows :=
    (rows_resultFrame hraw fun _ ↦ length_of_results hresults).trans
      (rows_resultFrame hraw' fun _ ↦ length_of_results hresults').symm
  obtain ⟨rs, hrs, hmem⟩ := hg.collects a ha
  obtain ⟨rs', hrs', hmem'⟩ := hg'.collects a ha'
  obtain rfl : rs = rs' := by
    have heq := hrs.collect_eq
    rw [hrs'.collect_eq] at heq
    injection heq with heq
    exact heq.symm
  -- the column over the results is the same
  obtain ⟨c, hc, hcolumn⟩ := Outcome.exists_of_mem hcolumns ha
  obtain ⟨c', hc', hcolumn'⟩ := Outcome.exists_of_mem hcolumns' ha'
  have hvalue := compatible_of_collects hg hg' hresults hresults' hraw hraw' hrows hrs hmem hmem'
    hpassed
  obtain rfl : c = c' := hvalue.bind_right _ c c' hcolumn hcolumn'
  rw [← (aggColumn_eq_ok hcolumn).1]
  refine ⟨c.column, Frame.column_of_mem ?_, Frame.column_of_mem ?_⟩
  · rw [(Frame.ofColumns_eq_ok.1 hframe).2.2]
    exact List.mem_append_right _ hc
  · rw [(Frame.ofColumns_eq_ok.1 hframe').2.2]
    exact List.mem_append_right _ hc'

/-! ### Nulls filled with a number of rows -/

/-- Four visits of two visitors; how long the first three took is not known. -/
def callsFrame : Frame :=
  ⟨[⟨"visitor", { series := ⟨.int64, [1, 1, 1, 2].map fun i ↦ some (FixedInt.wrap .int64 i)⟩ }⟩,
    ⟨"stay", { series := ⟨.int64, [none, none, none, some 7].map fun i ↦
      i.map (FixedInt.wrap .int64)⟩ }⟩], rfl⟩

/-- The key of the calls. -/
def caller : NamedExpr := ⟨"visitor", .node .int64 (.col "visitor") []⟩

/-- The first stay. -/
def firstStay : Expr := .node .int64 (.agg .first) [.node .int64 (.col "stay") []]

/-- The number of visits. -/
def visits : NamedExpr := ⟨"visits", .node .int64 .len []⟩

/-- The first stay or, if it is not known, the number of visits. -/
def firstOrSize : NamedExpr :=
  ⟨"first", .node .int64 (.unaryFunction .fillNull) [firstStay, visits.value]⟩

/-- The first stay or, if it is not known, nought. -/
def firstOrZero : NamedExpr :=
  ⟨"first", .node .int64 (.unaryFunction .fillNull)
    [firstStay, .node .int64 (.literal (.int (FixedInt.wrap .int64 0))) []]⟩

/-- The request for the first stay. -/
def firstRequest : AggRequest :=
  ⟨some (.node .int64 (.col "stay") []), .nthElement 0 true, firstStay⟩

/-- A column of 64-bit integers. -/
def ints (is : List (Option Int)) : Series := ⟨.int64, is.map (Option.map (FixedInt.wrap .int64))⟩

/-- The first stays of the two visitors. -/
def firstStays : Column := { series := ints [none, some 7] }

/-- The numbers of their visits. -/
def sizes : Column := { series := ints [some 3, some 1] }

/-- An expression over the first stays by itself. -/
def alone (a : NamedExpr) : GroupBy := ⟨[caller], [a], true, [firstRequest]⟩

/-- An expression over the first stays beside the numbers of visits. -/
def besideVisits (a : NamedExpr) : GroupBy :=
  ⟨[caller], [a, visits], true, [firstRequest, .size visits.value]⟩

/-- By themselves, the first stays are the one thing that is found. -/
theorem find?_alone (a : NamedExpr) (x : Expr) :
    ((alone a).mapping [firstStays.series]).find? x =
      if firstStay = x then some firstStays else none :=
  Mapping.find?_insert _ _ _ _

/-- Beside the numbers of visits, these are found too. -/
theorem find?_besideVisits (a : NamedExpr) (x : Expr) :
    ((besideVisits a).mapping [firstStays.series, sizes.series]).find? x =
      if visits.value = x then some sizes else if firstStay = x then some firstStays else none := by
  show Mapping.find? (Mapping.insert (Mapping.insert _ firstStay firstStays) visits.value sizes) x =
    _
  rw [Mapping.find?_insert, Mapping.find?_insert]
  rfl

/-- Nulls among the first stays are filled over results where the first stays are known. -/
theorem evaluate_fill {raw : Frame} {m : Mapping} {filler : Expr} {fill : Outcome Series}
    (hnode : m.find? (.node .int64 (.unaryFunction .fillNull) [firstStay, filler]) = none)
    (hfirst : m.find? firstStay = some firstStays)
    (hfill : UnaryFunction.filler .int64 [firstStay, filler]
      [.ok firstStays, filler.evaluate raw .groupBy m] = fill) :
    Expr.evaluate raw .groupBy m (.node .int64 (.unaryFunction .fillNull) [firstStay, filler]) =
      fill >>= fun t ↦ firstStays.series.fillNull t >>= fun s ↦ .ok { series := s } := by
  have hstay : firstStay.evaluate raw .groupBy m = .ok firstStays := by
    show Expr.evaluate raw .groupBy _ (.node _ _ _) = _
    rw [Expr.evaluate, show Mapping.find? _ (.node _ _ _) = _ from hfirst]
  rw [Expr.evaluate, hnode, Expr.evaluateAll, Expr.evaluateAll, Expr.evaluateAll, hstay, ← hfill]
  rfl

/-- The grouping of one expression alone, from the values that it has over the first stays. -/
theorem exists_evaluate_alone {value : Expr} {i j : Option Int}
    (hvalue : ∀ raw, raw.rows = 2 → value.evaluate raw .groupBy
      ((alone ⟨"first", value⟩).mapping [firstStays.series]) = .ok { series := ints [i, j] }) :
    ∃ out, (alone ⟨"first", value⟩).evaluate callsFrame = .ok out ∧
      out.column "first" = .ok { series := ints [i, j] } := by
  have hcolumns (raw : Frame) (hraw : raw.rows = 2) :
      [(⟨"first", value⟩ : NamedExpr)].mapM (aggColumn raw
        ((alone ⟨"first", value⟩).mapping [firstStays.series]) 2) =
        .ok [⟨"first", { series := ints [i, j] }⟩] := by
    refine Outcome.mapM_eq_ok.2 (.cons ?_ .nil)
    rw [aggColumn, hvalue raw hraw]
    rfl
  exact ⟨_, evaluate_eq_ok.2 ⟨_, _, _, _, _, rfl, rfl, rfl, rfl, hcolumns _ rfl, rfl⟩, rfl⟩

/-- The grouping of one expression beside the numbers of visits, likewise. -/
theorem exists_evaluate_besideVisits {value : Expr} {i j : Option Int}
    (hvalue : ∀ raw, raw.rows = 2 → value.evaluate raw .groupBy
      ((besideVisits ⟨"first", value⟩).mapping [firstStays.series, sizes.series]) =
        .ok { series := ints [i, j] }) :
    ∃ out, (besideVisits ⟨"first", value⟩).evaluate callsFrame = .ok out ∧
      out.column "first" = .ok { series := ints [i, j] } := by
  have hvisits (raw : Frame) : visits.value.evaluate raw .groupBy
      ((besideVisits ⟨"first", value⟩).mapping [firstStays.series, sizes.series]) = .ok sizes := by
    show Expr.evaluate raw .groupBy _ (.node _ _ _) = _
    rw [Expr.evaluate, show Mapping.find? _ (.node _ _ _) = some sizes from
      (find?_besideVisits _ visits.value).trans (if_pos rfl)]
  have hcolumns (raw : Frame) (hraw : raw.rows = 2) :
      [(⟨"first", value⟩ : NamedExpr), visits].mapM (aggColumn raw
        ((besideVisits ⟨"first", value⟩).mapping [firstStays.series, sizes.series]) 2) =
        .ok [⟨"first", { series := ints [i, j] }⟩, ⟨"visits", sizes⟩] := by
    refine Outcome.mapM_eq_ok.2 (.cons ?_ (.cons ?_ .nil))
    · rw [aggColumn, hvalue raw hraw]
      rfl
    · rw [aggColumn, hvisits raw]
      rfl
  exact ⟨_, evaluate_eq_ok.2 ⟨_, _, _, _, _, rfl, rfl, rfl, rfl, hcolumns _ rfl, rfl⟩, rfl⟩

/-- A literal filler has nothing in it that could be disturbed. -/
theorem undisturbed_firstOrZero (g g' : GroupBy) :
    ∀ p ∈ firstOrZero.value.unentered 0, p.1 = 0 → ∀ y ∈ p.2.nodes, Undisturbed g g' y := by
  intro p hp _ y hy
  have hpassed : firstOrZero.value.unentered 0 =
      [(0, .node .int64 (.literal (.int (FixedInt.wrap .int64 0))) [])] := rfl
  rw [hpassed, List.mem_singleton] at hp
  subst hp
  obtain rfl : y = .node .int64 (.literal (.int (FixedInt.wrap .int64 0))) [] := by
    simpa [Expr.nodes, Expr.nodesAll] using hy
  constructor
  · rintro name ⟨⟩
  · rintro (hkind | ⟨op, hkind⟩) <;> cases hkind

/-- The first stays are filled with nought by themselves and beside the numbers of visits. -/
theorem column_eq_of_undisturbed_firstOrZero :
    ∃ g g' out out', plan [caller] [firstOrZero] true = .ok g ∧
      plan [caller] [firstOrZero, visits] true = .ok g' ∧ firstOrZero ∈ [firstOrZero] ∧
      firstOrZero ∈ [firstOrZero, visits] ∧
      (∀ p ∈ firstOrZero.value.unentered 0, p.1 = 0 → ∀ y ∈ p.2.nodes, Undisturbed g g' y) ∧
      g.evaluate callsFrame = .ok out ∧ g'.evaluate callsFrame = .ok out' ∧
      ∃ c, out.column firstOrZero.name = .ok c ∧ out'.column firstOrZero.name = .ok c := by
  obtain ⟨out, hout, -⟩ : ∃ out, (alone firstOrZero).evaluate callsFrame = .ok out ∧
      out.column "first" = .ok { series := ints [some 0, some 7] } :=
    exists_evaluate_alone fun raw _ ↦
      (evaluate_fill ((find?_alone _ _).trans rfl) ((find?_alone _ _).trans rfl) rfl).trans rfl
  obtain ⟨out', hout', -⟩ : ∃ out, (besideVisits firstOrZero).evaluate callsFrame = .ok out ∧
      out.column "first" = .ok { series := ints [some 0, some 7] } :=
    exists_evaluate_besideVisits fun raw _ ↦ (evaluate_fill
      ((find?_besideVisits _ _).trans rfl) ((find?_besideVisits _ _).trans rfl) rfl).trans rfl
  have hplan : plan [caller] [firstOrZero] true = .ok (alone firstOrZero) := rfl
  have hplan' : plan [caller] [firstOrZero, visits] true = .ok (besideVisits firstOrZero) := rfl
  exact ⟨_, _, out, out', hplan, hplan', List.mem_cons_self, List.mem_cons_self,
    undisturbed_firstOrZero _ _, hout, hout', column_eq_of_undisturbed hplan hplan'
      List.mem_cons_self List.mem_cons_self (undisturbed_firstOrZero _ _) hout hout'⟩

theorem wellFormed_firstOrSize : firstOrSize.value.WellFormed := by
  have hcol : Expr.WellFormed (.node .int64 (.col "stay") []) := .node nofun rfl rfl
  have hfirst : firstStay.WellFormed := by
    refine .node ?_ rfl rfl
    rintro _ (_ | ⟨_, ⟨⟩⟩)
    exact hcol
  have hlen : visits.value.WellFormed := .node nofun rfl rfl
  refine .node ?_ rfl rfl
  rintro _ (_ | ⟨_, _ | ⟨_, ⟨⟩⟩⟩)
  · exact hfirst
  · exact hlen

theorem declares_firstOrSize : callsFrame.Declares firstOrSize.value := by
  have hcol : callsFrame.Declares (.node .int64 (.col "stay") []) := .col rfl rfl
  have hfirst : callsFrame.Declares firstStay := .node nofun (List.forall_mem_singleton.2 hcol)
  exact .node nofun (List.forall_mem_cons.2 ⟨hfirst, List.forall_mem_singleton.2
    (.node nofun nofun)⟩)

/-- **The number of rows is that of the groups or that of the rows in each group**, according to
what stands beside the expression. By itself the first stay that is not known is filled with 2, the
number of visitors, and beside the numbers of visits with 3, that of the visits of the first. -/
theorem not_column_eq_firstOrSize :
    firstOrSize.value.WellFormed ∧ callsFrame.Declares firstOrSize.value ∧
      ∃ g g' out out', plan [caller] [firstOrSize] true = .ok g ∧
        plan [caller] [firstOrSize, visits] true = .ok g' ∧ g.evaluate callsFrame = .ok out ∧
        g'.evaluate callsFrame = .ok out' ∧
        ¬∃ c, out.column firstOrSize.name = .ok c ∧ out'.column firstOrSize.name = .ok c := by
  obtain ⟨out, hout, hcolumn⟩ : ∃ out, (alone firstOrSize).evaluate callsFrame = .ok out ∧
      out.column "first" = .ok { series := ints [some 2, some 7] } := by
    refine exists_evaluate_alone fun raw hraw ↦ ?_
    -- the number of rows is not found, so the rows of the frame of results are counted
    have hlen : visits.value.evaluate raw .groupBy ((alone firstOrSize).mapping
        [firstStays.series]) = .ok { series := ints [some 2] } := by
      show Expr.evaluate raw .groupBy _ (.node _ _ _) = _
      rw [Expr.evaluate, show Mapping.find? _ (.node _ _ _) = none from
        (find?_alone firstOrSize visits.value).trans rfl, Expr.evaluateNode, hraw]
      rfl
    have hfill : UnaryFunction.filler .int64 [firstStay, visits.value] [.ok firstStays,
        visits.value.evaluate raw .groupBy ((alone firstOrSize).mapping [firstStays.series])] =
          .ok (ints [some 2]) := by
      rw [hlen]
      rfl
    exact (evaluate_fill ((find?_alone _ _).trans rfl) ((find?_alone _ _).trans rfl)
      hfill).trans rfl
  obtain ⟨out', hout', hcolumn'⟩ : ∃ out, (besideVisits firstOrSize).evaluate callsFrame = .ok out ∧
      out.column "first" = .ok { series := ints [some 3, some 7] } := by
    refine exists_evaluate_besideVisits fun raw _ ↦ ?_
    have hlen : visits.value.evaluate raw .groupBy ((besideVisits firstOrSize).mapping
        [firstStays.series, sizes.series]) = .ok sizes := by
      show Expr.evaluate raw .groupBy _ (.node _ _ _) = _
      rw [Expr.evaluate, show Mapping.find? _ (.node _ _ _) = some sizes from
        (find?_besideVisits firstOrSize visits.value).trans rfl]
    have hfill : UnaryFunction.filler .int64 [firstStay, visits.value] [.ok firstStays,
        visits.value.evaluate raw .groupBy ((besideVisits firstOrSize).mapping
          [firstStays.series, sizes.series])] = .ok sizes.series := by
      rw [hlen]
      rfl
    exact (evaluate_fill ((find?_besideVisits _ _).trans rfl) ((find?_besideVisits _ _).trans rfl)
      hfill).trans rfl
  refine ⟨wellFormed_firstOrSize, declares_firstOrSize, _, _, out, out', rfl, rfl, hout, hout', ?_⟩
  rintro ⟨c, hc, hc'⟩
  rw [show out.column firstOrSize.name = _ from hcolumn] at hc
  rw [show out'.column firstOrSize.name = _ from hcolumn', ← hc] at hc'
  injection hc' with hc'
  injection hc' with hc'
  injection hc' with _ hrows
  exact absurd hrows (by decide)

end GroupBy

end Tabular
