import Tabular.Expr.Evaluate
import Tabular.Proofs.Expr.Nodes

/-!
# Identity of expressions

Expressions are the keys of mappings and of the requests of a plan. What makes two of them the same
key is a relation on trees (`Expr.Identical`): equal types, kinds with equal options, and children
that are identical one by one. Floating-point literals are told apart by their bits, and literal
columns by the keys of their series, not by the rows. What evaluation derives from a node, such as
the compiled pattern of a regular expression, is read off its children and has no part in identity.

The test that look-ups perform also compares hashes, and `Expr.sameWith_decides_identity` says that
it decides identity nonetheless. There are two halves to this, and they rest on different facts:

* The test is no finer than identity, whatever the hash function does with the numbers it is given,
  since identical expressions give it the same numbers (`Expr.Identical.hashWith_eq`). Nothing is
  asked of the store here.
* Nor is it coarser, among expressions whose series come from one store, where a key is the key of
  one series only. There identity is equality (`Expr.Identical.eq`), and equal expressions have
  equal values.
-/

namespace Tabular

/-- What agrees on related elements agrees on related lists. -/
theorem map_eq_map_of_forall₂ {α β γ : Type} {R : α → β → Prop} {f : α → γ} {g : β → γ}
    {as : List α} {bs : List β} (h : List.Forall₂ R as bs)
    (hfg : ∀ a ∈ as, ∀ b ∈ bs, R a b → f a = g b) : as.map f = bs.map g := by
  induction h with
  | nil => rfl
  | cons hab _ ih =>
    rw [List.map_cons, List.map_cons, hfg _ List.mem_cons_self _ List.mem_cons_self hab,
      ih fun a ha b hb ↦ hfg a (List.mem_cons_of_mem _ ha) b (List.mem_cons_of_mem _ hb)]

/-- Literals of one form with one value; floating-point numbers by their bits. -/
def Literal.Identical : Literal → Literal → Prop
  | float x, float y => x.bits = y.bits
  | v, w => v = w

/-- Literals are identical if they are equal, since bits are what makes up a floating-point number.
-/
theorem Literal.identical_iff {v w : Literal} : v.Identical w ↔ v = w := by
  unfold Identical
  split
  · exact ⟨fun h ↦ congrArg float (Binary.ext h), fun h ↦ by injection h with h; rw [h]⟩
  · rfl

namespace Kind

/-- Kinds with the same options; literal columns by the keys of their series. -/
def Identical : Kind → Kind → Prop
  | literal v, literal w => v.Identical w
  | literalColumn s, literalColumn t => s.key = t.key
  | k, k' => k = k'

variable {k k' : Kind}

/-- A kind is identical to itself. -/
theorem identical_refl (k : Kind) : k.Identical k := by
  cases k with
  | literal v => exact Literal.identical_iff.2 rfl
  | _ => rfl

/-- Identical kinds are equal, or they are literal columns under one key. -/
theorem Identical.eq_or_key_eq (h : k.Identical k') :
    k = k' ∨ ∃ s t, k = literalColumn s ∧ k' = literalColumn t ∧ s.key = t.key := by
  unfold Identical at h
  split at h
  · exact .inl (congrArg literal (Literal.identical_iff.1 h))
  · next s t => exact .inr ⟨s, t, rfl, rfl, h⟩
  · exact .inl h

/-- Identical kinds of one store are equal. -/
theorem Identical.eq_of_stored {store : Nat → Series} (h : k.Identical k')
    (hk : ∀ s, k = literalColumn s → s.series = store s.key)
    (hk' : ∀ s, k' = literalColumn s → s.series = store s.key) : k = k' := by
  rcases h.eq_or_key_eq with h | ⟨⟨key, s⟩, ⟨_, t⟩, rfl, rfl, rfl⟩
  · exact h
  · obtain rfl : s = store key := hk _ rfl
    obtain rfl : t = store key := hk' _ rfl
    rfl

/-- Hashes look at no more than identity does. -/
theorem Identical.hashInput_eq (h : k.Identical k') : k.hashInput = k'.hashInput := by
  rcases h.eq_or_key_eq with rfl | ⟨s, t, rfl, rfl, hkey⟩
  · rfl
  · rw [hashInput, hashInput, hkey]

end Kind

namespace Expr

variable {d : DataType} {k k' : Kind} {cs : List Expr} {a b : Expr} {store : Nat → Series}

/-- Trees that are equal node by node. -/
inductive Identical : Expr → Expr → Prop
  | node {d k k' cs cs'} (hk : k.Identical k') (hcs : List.Forall₂ Identical cs cs') :
    Identical (node d k cs) (node d k' cs')

/-- A tree is identical to itself. -/
theorem identical_refl (a : Expr) : a.Identical a := by
  induction a using Expr.induction with
  | node d k cs ih => exact .node k.identical_refl (List.forall₂_same.2 ih)

/-! ### Hashes -/

/-- The hashes of children are taken one by one. -/
theorem childHashes_eq_map (H : Hasher) (cs : List Expr) :
    childHashes H cs = cs.map fun c ↦ (hashWith H c).toNat := by
  induction cs with
  | nil => rfl
  | cons c cs ih => rw [childHashes, ih, List.map_cons]

/-- **Hashes do not separate identical expressions.** -/
theorem Identical.hashWith_eq (H : Hasher) (h : a.Identical b) : hashWith H a = hashWith H b := by
  induction a using Expr.induction generalizing b with
  | node d k cs ih =>
    obtain ⟨hk, hcs⟩ := h
    have hhashes := map_eq_map_of_forall₂ hcs fun c hc c' _ h ↦ congrArg UInt64.toNat (ih c hc h)
    rw [hashWith, hashWith, hk.hashInput_eq, hcs.length_eq, childHashes_eq_map, childHashes_eq_map,
      hhashes]

/-! ### Expressions of one store -/

/-- Every literal column of the expression holds the series that is stored under its key. -/
def StoredIn (store : Nat → Series) (e : Expr) : Prop :=
  ∀ x ∈ e.nodes, ∀ s, x.kind = .literalColumn s → s.series = store s.key

/-- The literal columns of a tree are its own and those of its children. -/
theorem storedIn_node : (node d k cs).StoredIn store ↔
    (∀ s, k = .literalColumn s → s.series = store s.key) ∧ ∀ c ∈ cs, c.StoredIn store := by
  simp only [StoredIn, mem_nodes_node, forall_eq_or_imp, forall_exists_index, and_imp]
  exact and_congr_right fun _ ↦ ⟨fun h c hc x hx ↦ h x c hc hx, fun h x c hc hx ↦ h c hc x hx⟩

/-- Identical expressions of one store are equal. -/
theorem Identical.eq (ha : a.StoredIn store) (hb : b.StoredIn store) (h : a.Identical b) :
    a = b := by
  induction a using Expr.induction generalizing b with
  | node d k cs ih =>
    obtain ⟨hk, hcs⟩ := h
    obtain ⟨hkey, hchildren⟩ := storedIn_node.1 ha
    obtain ⟨hkey', hchildren'⟩ := storedIn_node.1 hb
    have hkind := hk.eq_of_stored hkey hkey'
    have hcs := map_eq_map_of_forall₂ hcs fun c hc c' hc' h ↦
      ih c hc (hchildren c hc) (hchildren' c' hc') h
    rw [List.map_id', List.map_id'] at hcs
    rw [hkind, hcs]

/-- Among expressions of one store the test with hashes succeeds for identical trees and no others.
-/
theorem sameWith_iff_identical (H : Hasher) (ha : a.StoredIn store) (hb : b.StoredIn store) :
    sameWith H a b = true ↔ a.Identical b :=
  sameWith_iff.trans ⟨fun h ↦ h ▸ a.identical_refl, fun h ↦ h.eq ha hb⟩

theorem equivalence_sameWith (H : Hasher) : Equivalence fun a b ↦ sameWith H a b = true where
  refl := sameWith_refl
  symm h := sameWith_iff.2 (sameWith_iff.1 h).symm
  trans h h' := sameWith_iff.2 ((sameWith_iff.1 h).trans (sameWith_iff.1 h'))

/-- **The test with hashes decides identity.** Whatever the hash function, the test is an
equivalence; of two expressions whose literal columns come from one store it is true exactly if they
are identical, in which case their hashes are equal, and so are their values over every frame, in
every context and under every mapping. -/
theorem sameWith_decides_identity (H : Hasher) (ha : a.StoredIn store) (hb : b.StoredIn store) :
    (Equivalence fun a b ↦ sameWith H a b = true) ∧
    (sameWith H a b = true ↔ a.Identical b) ∧
    (a.Identical b → hashWith H a = hashWith H b) ∧
    (a.Identical b → ∀ f context m, evaluate f context m a = evaluate f context m b) := by
  refine ⟨equivalence_sameWith H, sameWith_iff_identical H ha hb, Identical.hashWith_eq H,
    fun h f context m ↦ ?_⟩
  rw [h.eq ha hb]

/-- A stored series multiplied by the number with the given bits. -/
def scaledColumn (bits : BitVec 64) : Expr :=
  node .float64 (.binOp (.arithmetic .mul))
    [node .float64 (.literal (.float ⟨bits⟩)) [],
      node .float64 (.literalColumn ⟨7, .empty .float64⟩) []]

/-- The scaled column is stored under its key. -/
theorem storedIn_scaledColumn (bits : BitVec 64) :
    (scaledColumn bits).StoredIn fun _ ↦ .empty .float64 := by
  simp [scaledColumn, storedIn_node]

/-- Two NaNs of different bits are different factors, and each is the same factor as itself. -/
theorem sameWith_decides_identity_nans :
    sameWith .mixing (scaledColumn 0x7FF8000000000000) (scaledColumn 0x7FF8000000000000) = true ∧
    ¬sameWith .mixing (scaledColumn 0x7FF8000000000000) (scaledColumn 0x7FF8000000000001) =
      true := by
  have hdecides {bits bits' : BitVec 64} := sameWith_decides_identity .mixing
    (storedIn_scaledColumn bits) (storedIn_scaledColumn bits')
  refine ⟨hdecides.2.1.2 (identical_refl _), fun h ↦ ?_⟩
  obtain ⟨-, hcs⟩ := hdecides.2.1.1 h
  obtain ⟨⟨hbits, -⟩, -⟩ := List.forall₂_cons.1 hcs
  have hbits : (0x7FF8000000000000 : BitVec 64) = 0x7FF8000000000001 := hbits
  exact absurd hbits (by decide)

end Expr

end Tabular
