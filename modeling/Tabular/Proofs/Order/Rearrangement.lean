import Tabular.Proofs.Expr.Values
import Tabular.Proofs.Order.Sorting

/-!
# Sorting by keys

The rows of a column in the order of other columns. The places are sorted by the keys alone, so what
comes out has as many rows as the keys, and the rows of the column are all there, each once, only if
the column has that many as well (`Expr.evaluate_sortBy`). Nothing makes sure of it: the keys have
to agree with one another, but a key of a single row does not stand for the rows of the column, it
selects the first of them (`Expr.not_rearranges_evaluate_sortBy`).
-/

namespace Tabular

namespace SortByOptions

variable {o : SortByOptions} {n : Nat} {flag : Bool}

/-- A single flag of direction is that of every key. -/
theorem descending_of_mem_keys (h : o.descending = [flag]) {k : SortKey} (hk : k ∈ o.keys n) :
    k.descending = flag := by
  obtain ⟨i, -, rfl⟩ := List.mem_map.1 hk
  rw [h]
  rfl

/-- A single place of nulls is that of every key. -/
theorem nullsLast_of_mem_keys (h : o.nullsLast = [flag]) {k : SortKey} (hk : k ∈ o.keys n) :
    k.nullsLast = flag := by
  obtain ⟨i, -, rfl⟩ := List.mem_map.1 hk
  rw [h]
  rfl

/-- There is an option for each key. -/
@[simp]
theorem length_keys (o : SortByOptions) (n : Nat) : (o.keys n).length = n := by
  rw [keys, List.length_map, List.length_range]

end SortByOptions

namespace Series

variable {s t : Series} {keys : List Series} {options : List SortKey} {stable : Bool}
  {how : PlaceSort} {n : Nat}

/-- The rows of a series in the order of keys are at sorted places, as many as the keys have. -/
theorem exists_of_sortBy (h : s.sortBy keys options stable how = .ok t) :
    ∃ n places, (∀ k ∈ keys, k.length = n) ∧ SortsBy (keys.zip options) stable n places ∧
      t = s.select places := by
  obtain ⟨places, hplaces, -, rfl⟩ := sortBy_eq_ok.1 h
  obtain ⟨n, hne, hlen, hopts⟩ := exists_of_sortIndices hplaces
  obtain ⟨-, rfl⟩ := (sortIndices_eq_ok hne hlen hopts).1 hplaces
  exact ⟨n, _, hlen, sortsBy_places _ _ _ _, rfl⟩

/-- Keys of one length rearrange a series if their types have an order and the series has at least
as many rows. -/
theorem exists_sortBy_iff (hne : keys ≠ []) (hlen : ∀ k ∈ keys, k.length = n)
    (hopts : options.length = keys.length) :
    (∃ t, s.sortBy keys options stable how = .ok t) ↔
      Sortable keys stable ∧ (s.dtype ≠ .null → n ≤ s.length) := by
  have hinside {places : List Nat} (hperm : places.Perm (List.range n)) :
      (∀ i ∈ places, i < s.length) ↔ n ≤ s.length := by
    simp only [hperm.mem_iff, List.mem_range]
    exact ⟨fun h ↦ Nat.le_of_not_lt fun hlt ↦ Nat.lt_irrefl _ (h _ hlt),
      fun h i hi ↦ Nat.lt_of_lt_of_le hi h⟩
  simp only [sortBy_eq_ok, sortIndices_eq_ok hne hlen hopts]
  constructor
  · rintro ⟨t, places, ⟨hkeys, rfl⟩, hplaces, -⟩
    exact ⟨hkeys, fun hd ↦ (hinside (how.perm _ n)).1 (hplaces hd)⟩
  · rintro ⟨hkeys, hn⟩
    exact ⟨_, _, ⟨hkeys, rfl⟩, fun hd ↦ (hinside (how.perm _ n)).2 (hn hd), rfl⟩

end Series

namespace Expr

variable {fr : Frame} {context : Context} {m : Mapping} {d : DataType} {options : SortByOptions}
  {v : Expr} {ks : List Expr} {c : Column}

/-- The rows of a column in the order of keys are at sorted places, as many as the keys have. -/
theorem exists_of_evaluate_sortBy (hfind : m.find? (node d (.sortBy options) (v :: ks)) = none)
    (h : (node d (.sortBy options) (v :: ks)).evaluate fr context m = .ok c) :
    ∃ values keys n places, v.evaluate fr context m = .ok values ∧
      List.Forall₂ (fun e k ↦ e.evaluate fr context m = .ok k) ks keys ∧
      (∀ k ∈ keys, k.length = n) ∧ Series.SortsBy
        ((keys.map Column.series).zip (options.keys keys.length)) options.stable n places ∧
      c.series = values.series.select places := by
  obtain ⟨_, hcolumns, h⟩ := (evaluate_node_eq_ok (fun _ ↦ rfl) hfind).1 h
  obtain ⟨values, keys, hvalues, hkeys, rfl⟩ := List.forall₂_cons_left_iff.1 hcolumns
  obtain ⟨s, hs, h⟩ := Outcome.bind_eq_ok.1 h
  injection h with h
  obtain ⟨n, places, hlen, hsorts, rfl⟩ := Series.exists_of_sortBy hs
  exact ⟨values, keys, n, places, hvalues, hkeys, List.forall_mem_map.1 hlen, hsorts,
    h ▸ rfl⟩

/-- Keys with no more rows than the column, of types with an order, sort it. -/
theorem exists_evaluate_sortBy {values : Column} {keys : List Column} {n : Nat}
    (hfind : m.find? (node d (.sortBy options) (v :: ks)) = none)
    (hvalues : v.evaluate fr context m = .ok values)
    (hkeys : List.Forall₂ (fun e k ↦ e.evaluate fr context m = .ok k) ks keys) (hne : keys ≠ [])
    (hlen : ∀ k ∈ keys, k.length = n) (hn : n ≤ values.length)
    (hsortable : Series.Sortable (keys.map Column.series) options.stable) :
    ∃ c, (node d (.sortBy options) (v :: ks)).evaluate fr context m = .ok c := by
  obtain ⟨s, hs⟩ : ∃ s, values.series.sortBy (keys.map Column.series) (options.keys keys.length)
      options.stable = .ok s :=
    (Series.exists_sortBy_iff (mt List.map_eq_nil_iff.1 hne) (List.forall_mem_map.2 hlen)
      (by rw [SortByOptions.length_keys, List.length_map])).2 ⟨hsortable, fun _ ↦ hn⟩
  refine ⟨{ series := s },
    (evaluate_node_of_columns (fun _ ↦ rfl) hfind (.cons hvalues hkeys)).trans ?_⟩
  simp only [Kind.onColumns, hs, Outcome.ok_bind]

/-- A sort by keys that passes the check has a key. -/
theorem ne_nil_of_wellFormed (h : (node d (.sortBy options) (v :: ks)).WellFormed) : ks ≠ [] := by
  obtain ⟨-, -, hcheck⟩ := h
  rintro rfl
  cases hcheck

/-- **What comes out of a sort by keys** are rows of its column at sorted places. The keys have one
number of rows, which is that of the result. The result has all rows of the column, each once, if
and only if the column has as many. A single flag is that of every key. Keys of types with an order
do sort a column that has at least as many rows. -/
theorem evaluate_sortBy (hformed : (node d (.sortBy options) (v :: ks)).WellFormed)
    (hfind : m.find? (node d (.sortBy options) (v :: ks)) = none) :
    (∀ c, (node d (.sortBy options) (v :: ks)).evaluate fr context m = .ok c →
      ∃ values keys n places, v.evaluate fr context m = .ok values ∧
        List.Forall₂ (fun e k ↦ e.evaluate fr context m = .ok k) ks keys ∧
        (∀ k ∈ keys, k.length = n) ∧ c.length = n ∧ c.series = values.series.select places ∧
        Series.SortsBy ((keys.map Column.series).zip (options.keys keys.length)) options.stable n
          places ∧
        (c.series.Rearranges values.series ↔ n = values.length) ∧
        (∀ flag, options.descending = [flag] →
          ∀ k ∈ options.keys keys.length, k.descending = flag) ∧
        ∀ flag, options.nullsLast = [flag] →
          ∀ k ∈ options.keys keys.length, k.nullsLast = flag) ∧
    ∀ values keys n, v.evaluate fr context m = .ok values →
      List.Forall₂ (fun e k ↦ e.evaluate fr context m = .ok k) ks keys →
      (∀ k ∈ keys, k.length = n) → n ≤ values.length →
      Series.Sortable (keys.map Column.series) options.stable →
      ∃ c, (node d (.sortBy options) (v :: ks)).evaluate fr context m = .ok c := by
  constructor
  · intro c h
    obtain ⟨values, keys, n, places, hvalues, hkeys, hlen, hsorts, hc⟩ :=
      exists_of_evaluate_sortBy hfind h
    refine ⟨values, keys, n, places, hvalues, hkeys, hlen, ?_, hc, hsorts, ?_,
      fun flag hflag k ↦ SortByOptions.descending_of_mem_keys hflag,
      fun flag hflag k ↦ SortByOptions.nullsLast_of_mem_keys hflag⟩
    · rw [Column.length, hc, Series.length_select, hsorts.perm.length_eq, List.length_range]
    · rw [hc]
      exact Series.rearranges_select_iff hsorts.perm
  · intro values keys n hvalues hkeys hlen hn hsortable
    -- Without keys there would be no order to sort by, and a well-formed node has one.
    have hne : keys ≠ [] := by
      rintro rfl
      exact ne_nil_of_wellFormed hformed (List.forall₂_nil_right_iff.1 hkeys)
    exact exists_evaluate_sortBy hfind hvalues hkeys hne hlen hn hsortable

/-- A frame of runners and of their times, where they finished. -/
def finishers : Frame :=
  ⟨[⟨"runner", { series := ⟨.text .utf8, [some "b", some "a", some "c"]⟩ }⟩,
    ⟨"time", { series := ⟨.int64, [some 5, none, some 3].map fun i ↦ i.map (FixedInt.wrap _)⟩ }⟩],
    rfl⟩

/-- The column of the runners. -/
def runnerColumn : Expr := node (.text .utf8) (.col "runner") []

/-- The fastest first and those that did not finish last. -/
def fastestFirst : SortByOptions := { stable := true, nullsLast := [true], descending := [false] }

/-- The runners by their times. -/
def ranking : Expr :=
  node (.text .utf8) (.sortBy fastestFirst) [runnerColumn, node .int64 (.col "time") []]

/-- The runners by their times, the one that did not finish last. -/
theorem evaluate_sortBy_ranking : ∃ c, ranking.evaluate finishers .frame .empty = .ok c ∧
    c.series.Rearranges ⟨.text .utf8, [some "b", some "a", some "c"]⟩ := by
  have hformed : ranking.WellFormed := by decide
  obtain ⟨hsorts, hexists⟩ := @evaluate_sortBy finishers .frame .empty _ _ _ _ hformed rfl
  obtain ⟨c, hc⟩ := hexists _ _ 3 rfl (.cons rfl .nil) (List.forall_mem_singleton.2 rfl)
    (Nat.le_refl 3) (by decide)
  obtain ⟨values, keys, n, -, hvalues, hkeys, hlen, -, -, -, hiff, -⟩ := hsorts c hc
  cases hvalues
  obtain ⟨_, _, hkey, htail, rfl⟩ := List.forall₂_cons_left_iff.1 hkeys
  cases hkey
  exact ⟨c, hc, hiff.2 (hlen _ List.mem_cons_self).symm⟩

/-- A key that is the same for everyone. -/
def everyone : Expr := node .int64 (.literal (.int (FixedInt.wrap .int64 1))) []

/-- A constant key does not leave the rows as they are, it selects the first of them. -/
theorem not_rearranges_evaluate_sortBy :
    ¬∀ (fr : Frame) (d : DataType) (options : SortByOptions) (v : Expr) (ks : List Expr)
      (c values : Column), (node d (.sortBy options) (v :: ks)).WellFormed →
        fr.Declares (node d (.sortBy options) (v :: ks)) →
        (node d (.sortBy options) (v :: ks)).evaluate fr .frame .empty = .ok c →
        v.evaluate fr .frame .empty = .ok values → c.series.Rearranges values.series := by
  intro h
  obtain ⟨c, hc⟩ : ∃ c,
      (node (.text .utf8) (.sortBy fastestFirst) [runnerColumn, everyone]).evaluate
        finishers .frame .empty = .ok c :=
    exists_evaluate_sortBy rfl rfl (.cons rfl .nil) (by decide)
      (List.forall_mem_singleton.2 rfl) (by decide) (by decide)
  obtain ⟨values, keys, n, places, hvalues, hkeys, hlen, hsorts, hrows⟩ :=
    exists_of_evaluate_sortBy rfl hc
  cases hvalues
  obtain ⟨_, _, hkey, htail, rfl⟩ := List.forall₂_cons_left_iff.1 hkeys
  cases hkey
  have hone : n = 1 := (hlen _ List.mem_cons_self).symm
  have hrearranges := h finishers _ fastestFirst runnerColumn [everyone] c _ (by decide)
    (by decide) hc rfl
  rw [hrows, Series.rearranges_select_iff hsorts.perm, hone] at hrearranges
  exact absurd hrearranges (by decide)

end Expr

end Tabular
