import Tabular.Proofs.Failures.Lengths
import Tabular.Proofs.Order.Comparison

/-!
# The comparison operators as one order

The eight comparison operators are eight readings of one order. On two rows of one type this is so
by their definition (`Comparison.consistent_onRows`, `Comparison.onRows_swap`), and what is left to
show is that operands of different types are read in the same order by all of them, whichever of the
two stands on the left (`Series.consistent_combine`).

Both operands are converted to one type, that does not depend on which is the left one
(`Series.comparedAs_comm`), and the conversions keep values as values and nulls as nulls
(`Series.exists_convertsBy`). So a null is a null of the operands, and every law of the order of one
type is one of the operands of two.

Lists are the exception. The table of binary operators lists their comparisons, and the kernels
refuse every one of them (`Series.not_exists_combine_lists`).
-/

namespace Tabular

/-! ### Two rows -/

namespace Comparison

/-- The comparison that says the same of its operands the other way round. -/
def swap : Comparison → Comparison
  | lt => gt
  | le => ge
  | gt => lt
  | ge => le
  | eq => eq
  | ne => ne
  | nullEq => nullEq
  | nullNe => nullNe

/-- Exchanging operands is no matter to nulls. -/
@[simp]
theorem nullAware_swap (c : Comparison) : c.swap.nullAware = c.nullAware := by
  cases c <;> rfl

/-- The swapped comparison reads the order the other way round. -/
@[simp]
theorem holds_swap (c : Comparison) (o : Ordering) : c.swap.holds o.swap = c.holds o := by
  cases c <;> cases o <;> rfl

variable {d : DataType}

/-- Two rows compare as they do the other way round with the comparison swapped. -/
theorem onRows_swap (c : Comparison) (a b : Option d.Value) :
    c.swap.onRows d (b, a) = c.onRows d (a, b) := by
  have hrows : compareRows .before (d.compareValues .before) b a =
      (compareRows .before (d.compareValues .before) a b).swap := Std.OrientedCmp.eq_swap
  have hvalues (v w : d.Value) : d.compareValues .before w v =
      (d.compareValues .before v w).swap := Std.OrientedCmp.eq_swap
  cases haware : c.nullAware with
  | true =>
    simp only [onRows, nullAware_swap, haware, if_true]
    rw [hrows, holds_swap]
  | false =>
    simp only [onRows, nullAware_swap, haware, Bool.false_eq_true, if_false]
    cases a <;> cases b <;> first | rfl | rw [onBoth, onBoth, hvalues, holds_swap]

/-- The answers of the comparisons on the rows `a` and `b` are those of one order, with nulls left
out of it. -/
structure Consistent {α β : Type} (a : Option α) (b : Option β)
    (answer : Comparison → Option Bool) : Prop where
  /-- A null on either side leaves the six plain comparisons without an answer. -/
  eq_none : a = none ∨ b = none → ∀ c : Comparison, c.nullAware = false → answer c = none
  /-- The null-aware ones always have an answer: nulls are equal to each other only. -/
  nullEq : ∃ flag, answer .nullEq = some flag ∧
    (flag = true ↔ a = none ∧ b = none ∨ answer .eq = some true)
  nullNe : answer .nullNe = (answer .nullEq).map not
  /-- Of two values one is less, or they are equal, or one is greater. -/
  trichotomy : a.isSome = true → b.isSome = true →
    (answer .lt = some true ∧ answer .eq = some false ∧ answer .gt = some false) ∨
    (answer .lt = some false ∧ answer .eq = some true ∧ answer .gt = some false) ∨
    (answer .lt = some false ∧ answer .eq = some false ∧ answer .gt = some true)
  /-- The other three say what these do not. -/
  le : answer .le = (answer .gt).map not
  ge : answer .ge = (answer .lt).map not
  ne : answer .ne = (answer .eq).map not

/-- On two values a comparison reads their order. -/
@[simp]
theorem onRows_some (c : Comparison) (v w : d.Value) :
    c.onRows d (some v, some w) = some (c.holds (d.compareValues .before v w)) := by
  cases c <;> rfl

/-- **The comparisons of two rows of one type are those of one order.** -/
theorem consistent_onRows (a b : Option d.Value) :
    Consistent a b fun c ↦ c.onRows d (a, b) := by
  cases a with
  | none =>
    refine ⟨fun _ c hc ↦ ?_, ?_, rfl, nofun, rfl, rfl, rfl⟩
    · cases c <;> first | rfl | cases hc
    · cases b
      · exact ⟨true, rfl, iff_of_true rfl (.inl ⟨rfl, rfl⟩)⟩
      · exact ⟨false, rfl, by simp [onRows, nullAware, onBoth]⟩
  | some v =>
    cases b with
    | none =>
      refine ⟨fun _ c hc ↦ ?_, ?_, rfl, fun _ ↦ nofun, rfl, rfl, rfl⟩
      · cases c <;> first | rfl | cases hc
      · exact ⟨false, rfl, by simp [onRows, nullAware, onBoth]⟩
    | some w =>
      simp only [onRows_some]
      cases d.compareValues .before v w <;>
        exact ⟨by simp, ⟨_, rfl, by simp [holds]⟩, rfl, by simp [holds], rfl, rfl, rfl⟩

/-- What a conversion makes of the rows does not matter if it leaves values and nulls in place. -/
theorem Consistent.of_map {α β γ δ : Type} {f : α → γ} {g : β → δ} {a : Option α} {b : Option β}
    {answer : Comparison → Option Bool} (h : Consistent (a.map f) (b.map g) answer) :
    Consistent a b answer := by
  obtain ⟨eq_none, nullEq, nullNe, trichotomy, le, ge, ne⟩ := h
  simp only [Option.map_eq_none_iff] at eq_none nullEq
  simp only [Option.isSome_map] at trichotomy
  exact ⟨eq_none, nullEq, nullNe, trichotomy, le, ge, ne⟩

end Comparison

namespace Series

/-! ### Two series -/

section Compare

variable {c : Comparison} {d e k : DataType} {f : d.Value → k.Value} {g : e.Value → k.Value}
  {as : List (Option d.Value)} {bs : List (Option e.Value)}
  {ps : List (Option d.Value × Option e.Value)} {l r : Series} {n : Nat}

/-- Both operands are converted value by value. -/
theorem coerce_eq (hk : comparedAs d e = k) (hf : ConvertsBy d k f) (hg : ConvertsBy e k g)
    (as : List (Option d.Value)) (bs : List (Option e.Value)) :
    coerce ⟨d, as⟩ ⟨e, bs⟩ = .ok (⟨k, as.map (Option.map f)⟩, ⟨k, bs.map (Option.map g)⟩) :=
  (coerce_eq_ok hk).2 ⟨_, _, convertRows_eq_map hf as, convertRows_eq_map hg bs, rfl⟩

/-- A comparison compares the pairs of rows in the common type, unless that is one of lists. -/
theorem compare_eq (hk : comparedAs d e = k) (hf : ConvertsBy d k f) (hg : ConvertsBy e k g)
    (hps : pairRows as bs = .ok ps) (c : Comparison) :
    compare c ⟨d, as⟩ ⟨e, bs⟩ = if k.isList then kernelFault (.comparison k)
      else .ok (ps.map fun p ↦ c.onRows k (p.1.map f, p.2.map g)) := by
  simp only [compare, coerce_eq hk hf hg, Outcome.ok_bind, convertRows_self,
    pairRows_map hps (Option.map f) (Option.map g), List.map_map]
  rfl

/-- What the table of binary operators says of comparisons. -/
theorem supports_comparison_iff : (BinaryOp.comparison c).supports .boolean d e = true ↔
    d = e ∨ d.isNumeric ∧ e.isNumeric ∨ d.isText ∧ e.isText := by
  simp only [BinaryOp.supports, decide_true, Bool.true_and, Bool.or_eq_true, decide_eq_true_eq,
    Bool.and_eq_true, or_assoc]

/-- On types of the table a comparison is that of the common type. -/
theorem combine_comparison (h : d = e ∨ d.isNumeric ∧ e.isNumeric ∨ d.isText ∧ e.isText)
    (hk : comparedAs d e = k) (hf : ConvertsBy d k f) (hg : ConvertsBy e k g)
    (hps : pairRows as bs = .ok ps) (c : Comparison) :
    combine (.comparison c) .boolean ⟨d, as⟩ ⟨e, bs⟩ =
      if k.isList then kernelFault (.comparison k)
      else .ok (ofFlags (ps.map fun p ↦ c.onRows k (p.1.map f, p.2.map g))) := by
  rw [combine, if_pos (supports_comparison_iff.2 h), apply, compare_eq hk hf hg hps]
  split <;> rfl

/-- A comparison answers at each place what it says of the rows there. -/
theorem exists_flags (h : d = e ∨ d.isNumeric ∧ e.isNumeric ∨ d.isText ∧ e.isText)
    (hk : comparedAs d e = k) (hf : ConvertsBy d k f) (hg : ConvertsBy e k g)
    (hlist : k.isList = false) (ha : Fits as n) (hb : Fits bs n)
    (hlen : as.length = n ∨ bs.length = n) (c : Comparison) :
    ∃ flags, combine (.comparison c) .boolean ⟨d, as⟩ ⟨e, bs⟩ = .ok (ofFlags flags) ∧
      flags.length = n ∧ ∀ i < n, ∀ a b, rowAt as i = some a → rowAt bs i = some b →
        flags[i]? = some (c.onRows k (a.map f, b.map g)) := by
  obtain ⟨ps, hps, -⟩ := ha.exists_pairRows hb
  have hpslen : ps.length = n := length_pairRows hps ha hb hlen
  refine ⟨_, (combine_comparison h hk hf hg hps c).trans (if_neg (Bool.eq_false_iff.1 hlist)),
    (List.length_map _).trans hpslen, fun i hi a b hai hbi ↦ ?_⟩
  rw [List.getElem?_map, getElem?_pairRows hps (hpslen.symm ▸ hi) hai hbi]
  rfl

/-- A comparison is the swapped one of the operands the other way round. -/
theorem combine_swap (h : d = e ∨ d.isNumeric ∧ e.isNumeric ∨ d.isText ∧ e.isText)
    (hps : pairRows as bs = .ok ps) (c : Comparison) :
    combine (.comparison c.swap) .boolean ⟨e, bs⟩ ⟨d, as⟩ =
      combine (.comparison c) .boolean ⟨d, as⟩ ⟨e, bs⟩ := by
  obtain ⟨⟨f, hf⟩, g, hg⟩ := exists_convertsBy h
  rw [combine_comparison h rfl hf hg hps,
    combine_comparison (h.imp Eq.symm (Or.imp And.symm And.symm)) (comparedAs_comm h).symm hg hf
      (pairRows_swap hps)]
  simp only [List.map_map, Function.comp_def, Prod.fst_swap, Prod.snd_swap, Comparison.onRows_swap]

/-- **The eight comparisons of two series are one order.** On types of the table and operands of
which one may be a single row, every comparison says the same as the swapped one of the operands
the other way round. Unless the operands are lists, all comparisons succeed and say of the rows at
each place what one order with nulls left out of it does. -/
theorem consistent_combine {c₀ : Comparison}
    (h : (BinaryOp.comparison c₀).supports .boolean l.dtype r.dtype = true)
    (hl : Fits l.rows n) (hr : Fits r.rows n) (hlen : l.length = n ∨ r.length = n) :
    (∀ c : Comparison, r.combine (.comparison c.swap) .boolean l =
      l.combine (.comparison c) .boolean r) ∧
    (l.dtype.isList = true → ∀ c : Comparison,
      l.combine (.comparison c) .boolean r = kernelFault (.comparison l.dtype)) ∧
    (l.dtype.isList = false → ∃ flags : Comparison → List (Option Bool),
      (∀ c : Comparison, l.combine (.comparison c) .boolean r = .ok (ofFlags (flags c)) ∧
        (flags c).length = n) ∧
      ∀ i < n, ∀ a b, rowAt l.rows i = some a → rowAt r.rows i = some b →
        ∃ answer : Comparison → Option Bool, (∀ c, (flags c)[i]? = some (answer c)) ∧
          Comparison.Consistent a b answer) := by
  obtain ⟨d, as⟩ := l
  obtain ⟨e, bs⟩ := r
  obtain ⟨ps, hps, -⟩ := hl.exists_pairRows hr
  have hcomparable := supports_comparison_iff.1 h
  obtain ⟨⟨f, hf⟩, g, hg⟩ := exists_convertsBy hcomparable
  refine ⟨combine_swap hcomparable hps, fun hlist c ↦ ?_, fun hlist ↦ ?_⟩
  -- Two lists are supported only if they have one type, and then the kernel refuses them.
  · obtain ⟨-, hde⟩ := eq_of_supports_of_isList h hlist
    have hself : comparedAs d e = d := if_pos hde
    rw [combine_comparison hcomparable rfl hf hg hps, if_pos (hself.symm ▸ hlist), hself]
  · choose flags hcombine hlength hrows using
      exists_flags hcomparable rfl hf hg (isList_comparedAs hlist) hl hr hlen
    exact ⟨flags, fun c ↦ ⟨hcombine c, hlength c⟩, fun i hi a b hai hbi ↦
      ⟨fun c ↦ c.onRows (comparedAs d e) (a.map f, b.map g), fun c ↦ hrows c i hi a b hai hbi,
        (Comparison.consistent_onRows _ _).of_map⟩⟩

/-- Two distances, one of which is not known. -/
def distances : Series := ⟨.integer .int16, [some (FixedInt.wrap .int16 3), none]⟩

/-- A single distance that is no integer. -/
def halfway : Series := ⟨.float64, [some (Binary.ofRatio false 5 2)]⟩

/-- Distances compare with a single one halfway between, whichever side it stands on. -/
theorem consistent_combine_distances :
    (∀ c : Comparison, halfway.combine (.comparison c.swap) .boolean distances =
      distances.combine (.comparison c) .boolean halfway) ∧
    ∃ flags : Comparison → List (Option Bool),
      (∀ c : Comparison, distances.combine (.comparison c) .boolean halfway =
        .ok (ofFlags (flags c)) ∧ (flags c).length = 2) ∧
      ∃ answer : Comparison → Option Bool, (∀ c, (flags c)[0]? = some (answer c)) ∧
        Comparison.Consistent (some (FixedInt.wrap .int16 3))
          (some (Binary.ofRatio false 5 2 : Binary .double)) answer := by
  have hsupports : (BinaryOp.comparison .lt).supports .boolean distances.dtype halfway.dtype =
      true := rfl
  obtain ⟨hswap, -, hflags⟩ :=
    consistent_combine (n := 2) hsupports (.inl rfl) (.inr rfl) (.inl rfl)
  obtain ⟨flags, hcombine, hrows⟩ := hflags rfl
  exact ⟨hswap, flags, hcombine, hrows 0 (by decide) _ _ rfl rfl⟩

/-- A single list. -/
def path : Series := ⟨.list .int64, [some [some (FixedInt.wrap .int64 5)]]⟩

/-- The table lists the comparisons of a list with itself, and none has a result. -/
theorem not_exists_combine_lists :
    ¬∀ (c : Comparison) (l r : Series),
      (BinaryOp.comparison c).supports .boolean l.dtype r.dtype = true → l.length = r.length →
      ∃ t, l.combine (.comparison c) .boolean r = .ok t := by
  intro h
  obtain ⟨t, ht⟩ := h .nullEq path path (by decide) rfl
  have herror : path.combine (.comparison .nullEq) .boolean path =
      kernelFault (.comparison (.list .int64)) := rfl
  rw [herror] at ht
  cases ht

end Compare

end Series

end Tabular
