import Mathlib.Data.List.Zip
import Tabular.Proofs.Outcome
import Tabular.Series.Pairing

/-!
# Operations row by row

Most operations on series look at one row at a time: the result on a series is put together from the
results on its rows. `Series.Elementwise` says so of an operation with one operand, and
`Series.Pairwise` of one with two operands, whose rows are paired. Neither says anything of series
without rows, on which an operation may fail for no row's sake.

`Agrees` compares a computation on many rows with computations on one row each. It is what an
evaluation over a whole frame and the evaluations over its parts have in common, and it passes
through every operation that works row by row (`Agrees.bind_elementwise`, `Agrees.bind_pairwise`).
It is about outcomes and works in both directions: a value of the whole is a value at every place,
and values at all places are one of the whole.

A single row stands at every place, and so it fits any number of places (`Fits`, `rowAt`). Agreement
is about rows that fit, since otherwise no literal would agree with its parts.
-/

namespace Tabular

/-! ### Rows at a place -/

/-- The row at a place; a single row stands at every place. -/
def rowAt {α : Type} (rows : List α) (i : Nat) : Option α :=
  rows[if rows.length = 1 then 0 else i]?

/-- The rows fit `n` places: there are as many, or a single one for all. -/
def Fits {α : Type} (rows : List α) (n : Nat) : Prop := rows.length = n ∨ rows.length = 1

section Rows

variable {α β : Type} {rows : List α} {n i : Nat}

/-- A single row stands at every place. -/
@[simp]
theorem rowAt_singleton (x : α) : rowAt [x] i = some x :=
  rfl

/-- At a place that the rows have, their own row stands. -/
theorem rowAt_of_lt (hi : i < rows.length) : rowAt rows i = rows[i]? := by
  unfold rowAt
  split
  · next h1 =>
    obtain rfl : i = 0 := by omega
    rfl
  · rfl

/-- Rows that fit have one for every place. -/
theorem Fits.exists_rowAt (h : Fits rows n) (hi : i < n) : ∃ x, rowAt rows i = some x := by
  unfold rowAt
  split
  · next h1 => exact ⟨rows[0], List.getElem?_eq_getElem _⟩
  · next h1 =>
    obtain rfl := h.resolve_right h1
    exact ⟨rows[i], List.getElem?_eq_getElem hi⟩

/-- Every row stands at a place. -/
theorem Fits.exists_of_mem (h : Fits rows n) (hn : 0 < n) {x : α} (hx : x ∈ rows) :
    ∃ i < n, rowAt rows i = some x := by
  obtain ⟨i, hi, rfl⟩ := List.mem_iff_getElem.1 hx
  by_cases h1 : rows.length = 1
  · obtain rfl : i = 0 := by omega
    exact ⟨0, hn, by rw [rowAt, if_pos h1, List.getElem?_eq_getElem hi]⟩
  · rw [h.resolve_right h1] at hi
    exact ⟨i, hi, by rw [rowAt, if_neg h1, List.getElem?_eq_getElem]⟩

/-- What fits a place has a row. -/
theorem Fits.ne_nil (h : Fits rows n) (hn : 0 < n) : rows ≠ [] := by
  rintro rfl
  rcases h with h | h <;> simp at h
  omega

/-- Related lists have related rows at every place. -/
theorem rowAt_of_forall₂ {R : α → β → Prop} {out : List β} (h : List.Forall₂ R rows out) {x : α}
    (hx : rowAt rows i = some x) : ∃ y, rowAt out i = some y ∧ R x y := by
  unfold rowAt at hx ⊢
  rw [← h.length_eq]
  obtain ⟨hi, rfl⟩ := List.getElem?_eq_some_iff.1 hx
  have hi' : (if rows.length = 1 then 0 else i) < out.length := h.length_eq ▸ hi
  exact ⟨_, List.getElem?_eq_getElem hi', h.get hi hi'⟩

/-- Rows of one length are paired as they stand. -/
theorem pairRows_of_length_eq {as : List α} {bs : List β} (h : as.length = bs.length) :
    pairRows as bs = .ok (as.zip bs) :=
  if_pos h

/-- A single row on the left is paired with each. -/
@[simp]
theorem pairRows_single_left (a : α) (bs : List β) : pairRows [a] bs = .ok (bs.map (a, ·)) := by
  match bs with
  | [] => rfl
  | [_] => rfl
  | _ :: _ :: _ => rfl

@[simp]
theorem pairRows_single_right (as : List α) (b : β) : pairRows as [b] = .ok (as.map (·, b)) := by
  match as with
  | [] => rfl
  | [_] => rfl
  | _ :: _ :: _ => rfl

/-- The ways in which rows are paired. -/
theorem pairRows_cases {as : List α} {bs : List β} {ps : List (α × β)}
    (h : pairRows as bs = .ok ps) :
    (as.length = bs.length ∧ ps = as.zip bs) ∨ (∃ a, as = [a] ∧ ps = bs.map (a, ·)) ∨
      ∃ b, bs = [b] ∧ ps = as.map (·, b) := by
  unfold pairRows at h
  split at h
  · next hlen =>
    injection h with h
    exact .inl ⟨hlen, h.symm⟩
  · split at h
    · injection h with h
      exact .inr (.inl ⟨_, rfl, h.symm⟩)
    · injection h with h
      exact .inr (.inr ⟨_, rfl, h.symm⟩)
    · cases h

/-- Rows that are carried over one by one are paired as before. -/
theorem pairRows_map {α' β' : Type} {as : List α} {bs : List β} {ps : List (α × β)}
    (h : pairRows as bs = .ok ps) (f : α → α') (g : β → β') :
    pairRows (as.map f) (bs.map g) = .ok (ps.map (Prod.map f g)) := by
  rcases pairRows_cases h with ⟨hlen, rfl⟩ | ⟨a, rfl, rfl⟩ | ⟨b, rfl, rfl⟩
  · rw [pairRows_of_length_eq (by rw [List.length_map, List.length_map, hlen]), List.zip_map]
  · rw [List.map_singleton, pairRows_single_left, List.map_map, List.map_map]
    rfl
  · rw [List.map_singleton, pairRows_single_right, List.map_map, List.map_map]
    rfl

/-- The operands the other way round have the same pairs the other way round. -/
theorem pairRows_swap {as : List α} {bs : List β} {ps : List (α × β)}
    (h : pairRows as bs = .ok ps) : pairRows bs as = .ok (ps.map Prod.swap) := by
  rcases pairRows_cases h with ⟨hlen, rfl⟩ | ⟨a, rfl, rfl⟩ | ⟨b, rfl, rfl⟩
  · rw [pairRows_of_length_eq hlen.symm, List.zip_swap]
  · rw [pairRows_single_right, List.map_map]
    rfl
  · rw [pairRows_single_left, List.map_map]
    rfl

/-- The pairs of rows at a place are those of the rows at the place. -/
theorem rowAt_pairRows {as : List α} {bs : List β} {ps : List (α × β)}
    (h : pairRows as bs = .ok ps) {a : α} {b : β}
    (hai : rowAt as i = some a) (hbi : rowAt bs i = some b) : rowAt ps i = some (a, b) := by
  rcases pairRows_cases h with ⟨hlen, rfl⟩ | ⟨a', rfl, rfl⟩ | ⟨b', rfl, rfl⟩
  · unfold rowAt at hai hbi ⊢
    rw [← hlen] at hbi
    rw [List.length_zip, ← hlen, Nat.min_self, List.getElem?_zip_eq_some]
    exact ⟨hai, hbi⟩
  · injection hai with hai
    unfold rowAt at hbi ⊢
    rw [List.length_map, List.getElem?_map, hbi, hai]
    rfl
  · injection hbi with hbi
    unfold rowAt at hai ⊢
    rw [List.length_map, List.getElem?_map, hai, hbi]
    rfl

/-- As long as there are pairs, they stand at their own places. -/
theorem getElem?_pairRows {as : List α} {bs : List β} {ps : List (α × β)}
    (h : pairRows as bs = .ok ps) (hi : i < ps.length) {a : α} {b : β}
    (hai : rowAt as i = some a) (hbi : rowAt bs i = some b) : ps[i]? = some (a, b) := by
  rw [← rowAt_of_lt hi]
  exact rowAt_pairRows h hai hbi

/-- Operands that fit the same number of places can be paired, and the pairs fit it too. -/
theorem Fits.exists_pairRows {as : List α} {bs : List β} (ha : Fits as n) (hb : Fits bs n) :
    ∃ ps, pairRows as bs = .ok ps ∧ Fits ps n := by
  unfold pairRows
  by_cases hlen : as.length = bs.length
  · rw [if_pos hlen]
    refine ⟨_, rfl, ?_⟩
    unfold Fits at *
    rw [List.length_zip, ← hlen, Nat.min_self]
    exact ha
  · rw [if_neg hlen]
    split
    · exact ⟨_, rfl, by simpa [Fits] using hb⟩
    · exact ⟨_, rfl, by simpa [Fits] using ha⟩
    -- Of two different lengths that fit one is 1, which the earlier branches have dealt with.
    · next h1 h2 =>
      rcases ha with ha | ha
      · rcases hb with hb | hb
        · exact absurd (ha.trans hb.symm) hlen
        · obtain ⟨b, rfl⟩ := List.length_eq_one_iff.1 hb
          exact absurd rfl (h2 b)
      · obtain ⟨a, rfl⟩ := List.length_eq_one_iff.1 ha
        exact absurd rfl (h1 a)

/-- Pairs are as many as the places if one of the operands has so many rows. -/
theorem length_pairRows {as : List α} {bs : List β} {ps : List (α × β)}
    (h : pairRows as bs = .ok ps) (ha : Fits as n) (hb : Fits bs n)
    (hfull : as.length = n ∨ bs.length = n) : ps.length = n := by
  rcases pairRows_cases h with ⟨hlen, rfl⟩ | ⟨a, rfl, rfl⟩ | ⟨b, rfl, rfl⟩
  · rw [List.length_zip, ← hlen, Nat.min_self]
    exact hfull.elim id hlen.trans
  · rw [List.length_map]
    rcases hfull with hfull | hfull
    · exact hb.elim id fun h ↦ h.trans hfull
    · exact hfull
  · rw [List.length_map]
    rcases hfull with hfull | hfull
    · exact hfull
    · exact ha.elim id fun h ↦ h.trans hfull

end Rows

section Traversal

variable {α β : Type} {rows : List α} {n : Nat} {f : α → Outcome β}

/-- A traversal that succeeds does so at every place. -/
theorem Fits.mapM {out : List β} (h : Fits rows n) (hout : rows.mapM f = .ok out) :
    Fits out n ∧ ∀ i x, rowAt rows i = some x → ∃ y, rowAt out i = some y ∧ f x = .ok y := by
  have hrel := Outcome.mapM_eq_ok.1 hout
  refine ⟨?_, fun i x hx ↦ rowAt_of_forall₂ hrel hx⟩
  unfold Fits at *
  rwa [← hrel.length_eq]

/-- A traversal succeeds if it does so at every place. -/
theorem Fits.exists_mapM (h : Fits rows n) (hn : 0 < n)
    (hf : ∀ i < n, ∀ x, rowAt rows i = some x → ∃ y, f x = .ok y) :
    ∃ out, rows.mapM f = .ok out := by
  refine Outcome.exists_mapM_eq_ok fun x hx ↦ ?_
  obtain ⟨i, hi, hxi⟩ := h.exists_of_mem hn hx
  exact hf i hi x hxi

/-- A traversal of one element is the function of it. -/
theorem mapM_singleton_eq_ok {x : α} {out : List β} :
    [x].mapM f = .ok out ↔ ∃ y, f x = .ok y ∧ out = [y] := by
  rw [Outcome.mapM_eq_ok, List.forall₂_cons_left_iff]
  constructor
  · rintro ⟨y, _, hy, hnil, rfl⟩
    rw [List.forall₂_nil_left_iff.1 hnil]
    exact ⟨y, hy, rfl⟩
  · rintro ⟨y, hy, rfl⟩
    exact ⟨y, [], hy, .nil, rfl⟩

end Traversal

namespace Series

/-- The row at a place as a series of its own; a single row stands at every place. -/
def pick (s : Series) (i : Nat) : Series := if s.length = 1 then s else s.select [i]

/-- The row that stands at a place, as a series. -/
theorem pick_eq {s : Series} {i : Nat} {x : Option s.dtype.Value} (h : rowAt s.rows i = some x) :
    s.pick i = single s.dtype x := by
  obtain ⟨d, rows⟩ := s
  unfold rowAt at h
  unfold pick length
  split at h
  · next h1 =>
    rw [if_pos h1]
    obtain ⟨y, rfl⟩ : ∃ y, rows = [y] := List.length_eq_one_iff.1 h1
    injection h with h
    rw [single, h]
  · next h1 =>
    rw [if_neg h1]
    simp [select, take, single, h]

/-- On rows of type `d`, the operation is a function of single rows carried out on each of them. -/
def ElementwiseOn (d : DataType) (k : Series → Outcome Series) : Prop :=
  ∃ (d' : DataType) (f : Option d.Value → Outcome (Option d'.Value)), ∀ rows t, rows ≠ [] →
    (k ⟨d, rows⟩ = .ok t ↔ ∃ out, rows.mapM f = .ok out ∧ t = ⟨d', out⟩)

/-- The operation works row by row. What it does with a row may depend on the type. -/
def Elementwise (k : Series → Outcome Series) : Prop := ∀ d, ElementwiseOn d k

/-- On rows of types `d` and `e`, the operation is a function of single pairs of rows carried out on
each of them. -/
def PairwiseOn (d e : DataType) (k : Series → Series → Outcome Series) : Prop :=
  ∃ (d' : DataType) (f : Option d.Value × Option e.Value → Outcome (Option d'.Value)),
    ∀ as bs ps t, pairRows as bs = .ok ps → ps ≠ [] →
      (k ⟨d, as⟩ ⟨e, bs⟩ = .ok t ↔ ∃ out, ps.mapM f = .ok out ∧ t = ⟨d', out⟩)

/-- The operation works on pairs of rows. -/
def Pairwise (k : Series → Series → Outcome Series) : Prop := ∀ d e, PairwiseOn d e k

section Elementwise

variable {k : Series → Outcome Series} {s t : Series} {n : Nat}

/-- An operation row by row keeps the number of rows. -/
theorem Elementwise.length_eq (hk : Elementwise k) (hs : s.rows ≠ []) (h : k s = .ok t) :
    t.length = s.length := by
  obtain ⟨d, rows⟩ := s
  obtain ⟨d', f, hf⟩ := hk d
  obtain ⟨out, hout, rfl⟩ := (hf rows t hs).1 h
  exact (Outcome.mapM_eq_ok.1 hout).length_eq.symm

/-- A single row gives a single row. -/
theorem Elementwise.length_eq_one (hk : Elementwise k) (hs : s.length = 1) (h : k s = .ok t) :
    t.length = 1 :=
  (hk.length_eq (List.ne_nil_of_length_eq_add_one hs) h).trans hs

/-- The result on a series holds the results on its rows. -/
theorem Elementwise.pick (hk : Elementwise k) (hs : Fits s.rows n) (hn : 0 < n)
    (h : k s = .ok t) : Fits t.rows n ∧ ∀ i < n, k (s.pick i) = .ok (t.pick i) := by
  obtain ⟨d, rows⟩ := s
  obtain ⟨d', f, hf⟩ := hk d
  obtain ⟨out, hout, rfl⟩ := (hf rows t (hs.ne_nil hn)).1 h
  refine ⟨(hs.mapM hout).1, fun i hi ↦ ?_⟩
  obtain ⟨x, hx⟩ := hs.exists_rowAt hi
  obtain ⟨y, hy, hxy⟩ := (hs.mapM hout).2 i x hx
  rw [pick_eq hx, pick_eq hy]
  exact (hf [x] _ (List.cons_ne_nil _ _)).2 ⟨[y], mapM_singleton_eq_ok.2 ⟨y, hxy, rfl⟩, rfl⟩

/-- The operation succeeds on a series if it does on every row. -/
theorem Elementwise.exists_of_pick (hk : Elementwise k) (hs : Fits s.rows n) (hn : 0 < n)
    (h : ∀ i < n, ∃ t, k (s.pick i) = .ok t) : ∃ t, k s = .ok t := by
  obtain ⟨d, rows⟩ := s
  obtain ⟨d', f, hf⟩ := hk d
  obtain ⟨out, hout⟩ : ∃ out, rows.mapM f = .ok out := by
    refine hs.exists_mapM hn fun i hi x hx ↦ ?_
    obtain ⟨t, ht⟩ := h i hi
    rw [pick_eq hx] at ht
    obtain ⟨_, hy, -⟩ := (hf [x] t (List.cons_ne_nil _ _)).1 ht
    obtain ⟨y, hy, -⟩ := mapM_singleton_eq_ok.1 hy
    exact ⟨y, hy⟩
  exact ⟨_, (hf rows _ (hs.ne_nil hn)).2 ⟨out, hout, rfl⟩⟩

end Elementwise

section Pairwise

variable {k : Series → Series → Outcome Series} {s t u : Series} {n : Nat}

/-- The result has as many rows as there are places if an operand has. -/
theorem Pairwise.length_eq (hk : Pairwise k) (hs : Fits s.rows n) (ht : Fits t.rows n) (hn : 0 < n)
    (hfull : s.length = n ∨ t.length = n) (h : k s t = .ok u) : u.length = n := by
  obtain ⟨d, as⟩ := s
  obtain ⟨e, bs⟩ := t
  obtain ⟨d', f, hf⟩ := hk d e
  obtain ⟨ps, hps, hfits⟩ := hs.exists_pairRows ht
  obtain ⟨out, hout, rfl⟩ := (hf as bs ps u hps (hfits.ne_nil hn)).1 h
  exact (Outcome.mapM_eq_ok.1 hout).length_eq.symm.trans (length_pairRows hps hs ht hfull)

/-- The result on two series holds the results on the rows at every place. -/
theorem Pairwise.pick (hk : Pairwise k) (hs : Fits s.rows n) (ht : Fits t.rows n) (hn : 0 < n)
    (h : k s t = .ok u) :
    Fits u.rows n ∧ ∀ i < n, k (s.pick i) (t.pick i) = .ok (u.pick i) := by
  obtain ⟨d, as⟩ := s
  obtain ⟨e, bs⟩ := t
  obtain ⟨d', f, hf⟩ := hk d e
  obtain ⟨ps, hps, hfits⟩ := hs.exists_pairRows ht
  obtain ⟨out, hout, rfl⟩ := (hf as bs ps u hps (hfits.ne_nil hn)).1 h
  refine ⟨(hfits.mapM hout).1, fun i hi ↦ ?_⟩
  obtain ⟨a, ha⟩ := hs.exists_rowAt hi
  obtain ⟨b, hb⟩ := ht.exists_rowAt hi
  obtain ⟨y, hy, hxy⟩ := (hfits.mapM hout).2 i _ (rowAt_pairRows hps ha hb)
  rw [pick_eq ha, pick_eq hb, pick_eq hy]
  exact (hf [a] [b] [(a, b)] _ rfl (List.cons_ne_nil _ _)).2
    ⟨[y], mapM_singleton_eq_ok.2 ⟨y, hxy, rfl⟩, rfl⟩

/-- The operation succeeds on two series if it does at every place. -/
theorem Pairwise.exists_of_pick (hk : Pairwise k) (hs : Fits s.rows n) (ht : Fits t.rows n)
    (hn : 0 < n) (h : ∀ i < n, ∃ u, k (s.pick i) (t.pick i) = .ok u) : ∃ u, k s t = .ok u := by
  obtain ⟨d, as⟩ := s
  obtain ⟨e, bs⟩ := t
  obtain ⟨d', f, hf⟩ := hk d e
  obtain ⟨ps, hps, hfits⟩ := hs.exists_pairRows ht
  obtain ⟨out, hout⟩ : ∃ out, ps.mapM f = .ok out := by
    refine hfits.exists_mapM hn fun i hi p hp ↦ ?_
    obtain ⟨a, ha⟩ := hs.exists_rowAt hi
    obtain ⟨b, hb⟩ := ht.exists_rowAt hi
    rw [rowAt_pairRows hps ha hb] at hp
    injection hp with hp
    obtain ⟨u, hu⟩ := h i hi
    rw [pick_eq ha, pick_eq hb] at hu
    obtain ⟨_, hy, -⟩ := (hf [a] [b] [(a, b)] u rfl (List.cons_ne_nil _ _)).1 hu
    obtain ⟨y, hy, -⟩ := mapM_singleton_eq_ok.1 hy
    exact ⟨y, hp ▸ hy⟩
  exact ⟨_, (hf as bs ps _ hps (hfits.ne_nil hn)).2 ⟨out, hout, rfl⟩⟩

end Pairwise

end Series

/-! ### Agreement of a whole with its parts -/

/-- The computation on `n` places agrees with the computations on each of them: its result has the
results of the parts for rows, or is a single row that all parts have in common, and it succeeds as
soon as all parts do. -/
structure Agrees (n : Nat) (whole : Outcome Series) (part : Nat → Outcome Series) : Prop where
  fits : ∀ {s}, whole = .ok s → Fits s.rows n
  pick : ∀ {s}, whole = .ok s → ∀ i < n, part i = .ok (s.pick i)
  complete : (∀ i < n, ∃ s, part i = .ok s) → ∃ s, whole = .ok s

namespace Agrees

variable {n : Nat} {x y : Outcome Series} {p q : Nat → Outcome Series}

/-- What is the same single row on every part agrees with the parts. -/
theorem const (hn : 0 < n) (hx : ∀ s, x = .ok s → s.length = 1) (hp : ∀ i < n, p i = x) :
    Agrees n x p where
  fits h := .inr (hx _ h)
  pick h i hi := by rw [hp i hi, h, Series.pick, if_pos (hx _ h)]
  complete h := by
    obtain ⟨s, hs⟩ := h 0 hn
    exact ⟨s, hp 0 hn ▸ hs⟩

/-- Parts count only for the places there are. -/
theorem congr (h : Agrees n x p) (hpq : ∀ i < n, p i = q i) : Agrees n x q where
  fits := h.fits
  pick hs i hi := hpq i hi ▸ h.pick hs i hi
  complete hq := h.complete fun i hi ↦ (hpq i hi).symm ▸ hq i hi

/-- **An operation row by row keeps the agreement.** -/
theorem bind_elementwise {k : Series → Outcome Series} (h : Agrees n x p)
    (hk : Series.Elementwise k) (hn : 0 < n) : Agrees n (x >>= k) fun i ↦ p i >>= k where
  fits ht := by
    obtain ⟨s, hs, ht⟩ := Outcome.bind_eq_ok.1 ht
    exact (hk.pick (h.fits hs) hn ht).1
  pick ht i hi := by
    obtain ⟨s, hs, ht⟩ := Outcome.bind_eq_ok.1 ht
    rw [h.pick hs i hi]
    exact (hk.pick (h.fits hs) hn ht).2 i hi
  complete hparts := by
    have hpart (i : Nat) (hi : i < n) : ∃ s, p i = .ok s ∧ ∃ t, k s = .ok t := by
      obtain ⟨t, ht⟩ := hparts i hi
      obtain ⟨s, hs, ht⟩ := Outcome.bind_eq_ok.1 ht
      exact ⟨s, hs, t, ht⟩
    obtain ⟨s, hs⟩ := h.complete fun i hi ↦ (hpart i hi).imp fun _ ↦ And.left
    rw [hs]
    refine hk.exists_of_pick (h.fits hs) hn fun i hi ↦ ?_
    obtain ⟨s', hs', ht⟩ := hpart i hi
    rw [h.pick hs i hi] at hs'
    injection hs' with hs'
    exact hs' ▸ ht

/-- **An operation on pairs of rows keeps the agreement of both operands.** -/
theorem bind_pairwise {k : Series → Series → Outcome Series} (hx : Agrees n x p)
    (hy : Agrees n y q) (hk : Series.Pairwise k) (hn : 0 < n) :
    Agrees n (x >>= fun s ↦ y >>= k s) fun i ↦ p i >>= fun s ↦ q i >>= k s where
  fits hu := by
    obtain ⟨s, hs, hu⟩ := Outcome.bind_eq_ok.1 hu
    obtain ⟨t, ht, hu⟩ := Outcome.bind_eq_ok.1 hu
    exact (hk.pick (hx.fits hs) (hy.fits ht) hn hu).1
  pick hu i hi := by
    obtain ⟨s, hs, hu⟩ := Outcome.bind_eq_ok.1 hu
    obtain ⟨t, ht, hu⟩ := Outcome.bind_eq_ok.1 hu
    rw [hx.pick hs i hi, hy.pick ht i hi]
    exact (hk.pick (hx.fits hs) (hy.fits ht) hn hu).2 i hi
  complete hparts := by
    -- If all rows succeed alone then both operands do, by `complete` for each, and what is left to
    -- show is that the kernel succeeds on the whole.
    have hpart (i : Nat) (hi : i < n) :
        ∃ s, p i = .ok s ∧ ∃ t, q i = .ok t ∧ ∃ u, k s t = .ok u := by
      obtain ⟨u, hu⟩ := hparts i hi
      obtain ⟨s, hs, hu⟩ := Outcome.bind_eq_ok.1 hu
      obtain ⟨t, ht, hu⟩ := Outcome.bind_eq_ok.1 hu
      exact ⟨s, hs, t, ht, u, hu⟩
    obtain ⟨s, hs⟩ := hx.complete fun i hi ↦ (hpart i hi).imp fun _ ↦ And.left
    obtain ⟨t, ht⟩ := hy.complete fun i hi ↦ by
      obtain ⟨_, _, t, ht, _⟩ := hpart i hi
      exact ⟨t, ht⟩
    rw [hs, Outcome.ok_bind, ht]
    refine hk.exists_of_pick (hx.fits hs) (hy.fits ht) hn fun i hi ↦ ?_
    obtain ⟨s', hs', t', ht', hu⟩ := hpart i hi
    rw [hx.pick hs i hi] at hs'
    rw [hy.pick ht i hi] at ht'
    injection hs' with hs'
    injection ht' with ht'
    exact hs' ▸ ht' ▸ hu

end Agrees

end Tabular
