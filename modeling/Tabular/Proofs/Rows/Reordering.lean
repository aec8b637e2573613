import Mathlib.Data.Finset.Card
import Mathlib.Data.Finset.Dedup
import Mathlib.Data.List.GetD
import Tabular.Proofs.Order.Keys
import Tabular.Proofs.Order.Places
import Tabular.Proofs.Rows.Kernels
import Tabular.Series.Reduce

/-!
# Reductions of reordered rows

Some reductions look at their rows as a multiset (`Aggregation.ignoresOrder`). Counts do; the number
of distinct rows is that of a set; an extremum is the first row in sorted order, in which rows that
compare as equal are equal (`Series.sort_of_perm`); integers that wrap around can be added in any
order. Sums of floating-point numbers round after each step, and are left out. Reordered rows reduce
to the same value (`Series.reduce_of_perm`).

What is known of a reduction is carried to columns of results by their parts: if the parts of two
wholes are matched, one whole is a selection of the other (`Agrees.select_of_matched`).
-/

namespace Tabular

/-! ### Lists and wholes in another order -/

/-- A list in another order is given by the places of its elements. -/
theorem exists_order_of_perm {α : Type} {as bs : List α} (h : as.Perm bs) :
    ∃ order, order.Perm (List.range bs.length) ∧
      List.Forall₂ (fun a i ↦ bs[i]? = some a) as order := by
  have hself : List.Forall₂ (fun b i ↦ bs[i]? = some b) bs (List.range bs.length) := by
    refine List.forall₂_iff_get.2 ⟨List.length_range.symm, fun i hi _ ↦ ?_⟩
    rw [List.get_eq_getElem, List.get_eq_getElem, List.getElem_range, List.getElem?_eq_getElem]
  obtain ⟨order, horder, hperm⟩ := List.perm_comp_forall₂ h hself
  exact ⟨order, hperm, horder⟩

/-- What a traversal gives for a list in another order is in another order. -/
theorem Outcome.exists_mapM_of_perm {α β : Type} {f : α → Outcome β} {as as' : List α} {bs : List β}
    (h : as.Perm as') (hbs : as.mapM f = .ok bs) : ∃ bs', as'.mapM f = .ok bs' ∧ bs.Perm bs' := by
  obtain ⟨bs', hbs', hperm⟩ := List.perm_comp_forall₂ h.symm (Outcome.mapM_eq_ok.1 hbs)
  exact ⟨bs', Outcome.mapM_eq_ok.2 hbs', hperm.symm⟩

/-- **Wholes whose parts are matched** are selections of one another: the second has, for each of
its places, the row of the first at the place that is matched with it. -/
theorem Agrees.select_of_matched {n n' : Nat} {x x' : Outcome Series} {p p' : Nat → Outcome Series}
    (h : Agrees n x p) (h' : Agrees n' x' p') {s : Series} (hs : x = .ok s) (hlen : s.length = n)
    (hlen' : ∀ s', x' = .ok s' → s'.length = n') (hpos : 0 < n') {order : List Nat}
    (hcount : order.length = n') (hlt : ∀ j (hj : j < order.length), order[j] < n)
    (hpart : ∀ j (hj : j < order.length), ∀ t, p order[j] = .ok t → p' j = .ok t) :
    x' = .ok (s.select order) := by
  have hrow (j : Nat) (hj : j < order.length) : p' j = .ok (s.select [order[j]]) := by
    have hpick := h.pick hs _ (hlt j hj)
    rw [Series.pick_eq_select (hlen ▸ hlt j hj)] at hpick
    exact hpart j hj _ hpick
  obtain ⟨s', hs'⟩ := h'.complete fun j hj ↦ ⟨_, hrow j (hcount ▸ hj)⟩
  have hcount' : s'.length = order.length := (hlen' s' hs').trans hcount.symm
  rw [hs', Series.eq_select (List.ne_nil_of_length_pos (hcount ▸ hpos)) hcount' fun j hj ↦ ?_]
  have hpick := h'.pick hs' j (hcount ▸ hj)
  rw [Series.pick_eq_select (hcount' ▸ hj)] at hpick
  exact Except.ok.inj (hpick.symm.trans (hrow j hj))

/-! ### Sums -/

namespace FixedInt

variable {t : IntType}

/-- Wrapping may be put off. -/
theorem wrapInt_wrapInt_add (t : IntType) (i j : Int) :
    wrapInt t (wrapInt t i + j) = wrapInt t (i + j) := by
  have hleft : (i - t.min) % (twoTo t.width : Int) + t.min + j - t.min =
      (i - t.min) % (twoTo t.width : Int) + j := by omega
  have hright : i - t.min + j = i + j - t.min := by omega
  rw [wrapInt, wrapInt, hleft, Int.emod_add_emod, hright, wrapInt]

/-- Integers that wrap around can be added in any order. -/
theorem add_right_comm (a b c : FixedInt t) : (a.add b).add c = (a.add c).add b := by
  have hsum (i j : Int) : wrapInt t (wrapInt t (a.toInt + i) + j) = wrapInt t (a.toInt + i + j) :=
    wrapInt_wrapInt_add t _ j
  apply ext
  show wrapInt t (wrapInt t (a.toInt + b.toInt) + c.toInt) =
    wrapInt t (wrapInt t (a.toInt + c.toInt) + b.toInt)
  rw [hsum, hsum, Int.add_right_comm]

end FixedInt

/-- The reductions of rows of type `d` that give the same for rows in any order. -/
def Aggregation.ignoresOrder (d : DataType) : Aggregation → Bool
  | count _ => true
  | min => true
  | max => true
  | nUnique _ => true
  | sum => !d.isFloating
  | _ => false

namespace Series

variable {d e : DataType} {rows rows' : List (Option d.Value)} {t : Series}

/-- Rows selected from selected rows stood at the places of the places. -/
theorem select_select_map (s : Series) {places group : List Nat}
    (h : ∀ i ∈ group, i < places.length) :
    (s.select places).select group = s.select (group.map (places.getD · 0)) := by
  rw [select_eq s, select_eq s, select_eq, List.map_map]
  refine congrArg (Series.mk s.dtype) (List.map_congr_left fun i hi ↦ ?_)
  rw [List.getElem?_map, List.getElem?_eq_getElem (h i hi), Function.comp_apply,
    List.getD_eq_getElem _ _ (h i hi)]
  rfl

/-- Wrapping sums are the same in any order. -/
theorem addUp_eq_of_perm {t : IntType} {rows rows' : List (Option (FixedInt t))}
    (h : rows.Perm rows') : sum.addUp rows = sum.addUp rows' :=
  (h.filterMap id).foldl_eq' (fun x _ y _ z ↦ FixedInt.add_right_comm z x y) _

/-- Reordered rows convert to reordered rows. -/
theorem exists_convertRows_of_perm (h : rows.Perm rows') {out : List (Option e.Value)}
    (hout : (⟨d, rows⟩ : Series).convertRows e = .ok out) :
    ∃ out', (⟨d, rows'⟩ : Series).convertRows e = .ok out' ∧ out.Perm out' := by
  by_cases hrows : rows = []
  · subst hrows
    rw [List.nil_perm.1 h]
    exact ⟨out, hout, .refl _⟩
  · have hrows' : rows' ≠ [] := fun hnil ↦ hrows (List.perm_nil.1 (hnil ▸ h))
    obtain ⟨out', hout', hperm⟩ :=
      Outcome.exists_mapM_of_perm h ((convertRows_eq_ok hrows).1 hout)
    exact ⟨out', (convertRows_eq_ok hrows').2 hout', hperm⟩

/-- Sums are the same in any order, unless they are rounded. -/
theorem sum_of_perm (hd : d.isFloating = false) (h : rows.Perm rows')
    (ht : (⟨d, rows⟩ : Series).sum = .ok t) : (⟨d, rows'⟩ : Series).sum = .ok t := by
  have hconvert {wide : IntType}
      (ht : ((⟨d, rows⟩ : Series).convertRows (.integer wide) >>= fun out ↦
        .ok (single (.integer wide) (some (sum.addUp out)))) = .ok t) :
      ((⟨d, rows'⟩ : Series).convertRows (.integer wide) >>= fun out ↦
        .ok (single (.integer wide) (some (sum.addUp out)))) = .ok t := by
    obtain ⟨out, hout, ht⟩ := Outcome.bind_eq_ok.1 ht
    obtain ⟨out', hout', hperm⟩ := exists_convertRows_of_perm h hout
    rw [hout', ← ht, Outcome.ok_bind, addUp_eq_of_perm hperm]
  cases d with
  | integer _ | boolean => exact hconvert ht
  | float _ => cases hd
  | _ => exact ht

/-! ### Counts -/

/-- Nulls are counted alike in any order. -/
theorem nullCount_eq_of_perm (h : rows.Perm rows') :
    (⟨d, rows⟩ : Series).nullCount = (⟨d, rows'⟩ : Series).nullCount := by
  cases d with
  | null => rfl
  | _ => exact h.countP_eq _

/-- Values entered one after the other make up a set. -/
theorem length_foldl_insert {α : Type} [DecidableEq α] [BEq α] [LawfulBEq α]
    {kinds values : List α} (h : kinds.Nodup) :
    (values.foldl (fun kinds v ↦ kinds.insert v) kinds).length =
      (kinds.toFinset ∪ values.toFinset).card := by
  induction values generalizing kinds with
  | nil => rw [List.toFinset_nil, Finset.union_empty, List.toFinset_card_of_nodup h, List.foldl_nil]
  | cons v values ih =>
    have hset : (kinds.insert v).toFinset = insert v kinds.toFinset := by
      ext w
      simp
    rw [List.foldl_cons, ih h.insert, hset, List.toFinset_cons, Finset.insert_union,
      Finset.union_insert]

/-- The distinct rows are counted as a set. -/
theorem countDistinct_eq_card (s : Series) : s.countDistinct = s.rows.toFinset.card := by
  rw [countDistinct, length_foldl_insert List.nodup_nil, List.toFinset_nil, Finset.empty_union]

/-! ### Extrema -/

/-- **Reordered rows sort to the same rows**, since rows that compare as equal are equal: it is no
matter how the places are sorted. -/
theorem sort_of_perm {k : SortKey} {stable stable' : Bool} {how how' : PlaceSort}
    (h : rows.Perm rows') (hd : Sortable [(⟨d, rows'⟩ : Series)] stable')
    (ht : (⟨d, rows⟩ : Series).sort k stable how = .ok t) :
    (⟨d, rows'⟩ : Series).sort k stable' how' = .ok t := by
  obtain ⟨t', ht'⟩ : ∃ t', (⟨d, rows'⟩ : Series).sort k stable' how' = .ok t' :=
    exists_sort_iff.2 hd
  have hordered := pairwise_sort ht
  have hordered' := pairwise_sort ht'
  obtain ⟨out, rfl, hout⟩ := perm_sort ht
  obtain ⟨out', rfl, hout'⟩ := perm_sort ht'
  have hantisymm := (Sortedness.antisymm_compareRows (.ofKey k) d).antisymm
  have heq : out = out' := List.Perm.eq_of_pairwise (fun a b _ _ ↦ hantisymm a b) hordered
    hordered' (hout.trans (h.trans hout'.symm))
  rw [ht', heq]

/-- An extremum is the first row in sorted order. -/
theorem extremum_eq_sort {s : Series} (hrows : s.rows ≠ []) (greatest : Bool) :
    s.extremum greatest =
      s.sort ⟨greatest, true⟩ false >>= fun t ↦ .ok ⟨t.dtype, t.rows.take 1⟩ := by
  have hselect (places : List Nat) :
      s.select (places.take 1) = ⟨(s.select places).dtype, (s.select places).rows.take 1⟩ := by
    rw [s.select_eq places, select_eq, List.map_take]
  unfold extremum sort
  rw [sortIndices_singleton]
  split
  · next hnil => exact absurd hnil hrows
  · cases s.sortRanked ⟨greatest, true⟩ .merging with
    | error e => rfl
    | ok places => exact congrArg Except.ok (hselect places)

/-- Reordered rows have the same extremum. -/
theorem extremum_of_perm {greatest : Bool} (h : rows.Perm rows')
    (ht : (⟨d, rows⟩ : Series).extremum greatest = .ok t) :
    (⟨d, rows'⟩ : Series).extremum greatest = .ok t := by
  by_cases hrows : rows = []
  · subst hrows
    rwa [List.nil_perm.1 h]
  · have hrows' : rows' ≠ [] := fun hnil ↦ hrows (List.perm_nil.1 (hnil ▸ h))
    rw [extremum_eq_sort hrows] at ht
    obtain ⟨u, hu, ht⟩ := Outcome.bind_eq_ok.1 ht
    have hd : d.isRanked = true := sortable_singleton_false.1 (exists_sort_iff.1 ⟨u, hu⟩)
    rw [extremum_eq_sort hrows', sort_of_perm h (sortable_singleton_false.2 hd) hu]
    exact ht

/-- **Reordered rows reduce to the same value.** -/
theorem reduce_of_perm {agg : Aggregation} (hagg : agg.ignoresOrder d = true) (h : rows.Perm rows')
    (ht : (⟨d, rows⟩ : Series).reduce agg = .ok t) : (⟨d, rows'⟩ : Series).reduce agg = .ok t := by
  cases agg with
  | count includeNulls =>
    have hlen : (⟨d, rows⟩ : Series).length = (⟨d, rows'⟩ : Series).length := h.length_eq
    simp only [reduce, hlen, nullCount_eq_of_perm h] at ht ⊢
    exact ht
  | nUnique includeNulls =>
    have hcount : (⟨d, rows⟩ : Series).countDistinct = (⟨d, rows'⟩ : Series).countDistinct := by
      rw [countDistinct_eq_card, countDistinct_eq_card]
      exact congrArg Finset.card (List.toFinset_eq_of_perm _ _ h)
    simp only [reduce, hcount, nullCount_eq_of_perm h] at ht ⊢
    exact ht
  | min | max => exact extremum_of_perm h ht
  | sum => exact sum_of_perm (by simpa [Aggregation.ignoresOrder] using hagg) h ht
  | _ => cases hagg

end Series

end Tabular
