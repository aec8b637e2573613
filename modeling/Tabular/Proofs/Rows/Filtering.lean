import Tabular.Proofs.Expr.Values
import Tabular.Proofs.Rows.Selection

/-!
# Filtered rows

A filter keeps the rows of a column at the places where a mask is true (`truePlaces`,
`keepWhere_eq_map`). The mask has a flag for each row, or a single one for all of them. A
mask with more flags than rows is refused. One with fewer is not, if it is not a single flag: rows
beyond its end are dropped as if their flags were null.

`FiltersBy` is what the filter of a column by flags has to be, and a filter is that if its mask is
not too short (`Expr.evaluate_filter`). Two flags filter three rows (`Expr.not_filtersBy_evaluate`).
-/

namespace Tabular

/-! ### True places -/

/-- The places where a mask is true, ascending. -/
def truePlaces (flags : List (Option Bool)) : List Nat :=
  (List.range flags.length).filter fun i ↦ flags[i]? = some (some true)

/-- The first flag is at place nought, and the others one further on. -/
theorem truePlaces_cons (m : Option Bool) (ms : List (Option Bool)) :
    truePlaces (m :: ms) = (if m = some true then [0] else []) ++ (truePlaces ms).map (· + 1) := by
  rw [truePlaces, List.length_cons, List.range_succ_eq_map, List.filter_cons, List.filter_map]
  split <;> simp_all [truePlaces, Function.comp_def]

/-- A flag for all rows is true everywhere or nowhere. -/
theorem truePlaces_replicate (n : Nat) (m : Option Bool) :
    truePlaces (List.replicate n m) = if m = some true then List.range n else [] := by
  have hflag (i : Nat) (hi : i ∈ List.range n) : (List.replicate n m)[i]? = some m := by
    rw [List.getElem?_replicate, if_pos (List.mem_range.1 hi)]
  rw [truePlaces, List.length_replicate]
  split
  · next hm => exact List.filter_eq_self.2 fun i hi ↦ by rw [hflag i hi, hm]; rfl
  · next hm =>
    refine List.filter_eq_nil_iff.2 fun i hi ↦ ?_
    rw [hflag i hi, decide_eq_true_eq, Option.some.injEq]
    exact hm

/-- **The rows that a mask keeps are those at its true places.** -/
theorem keepWhere_eq_map {α : Type} {rows : List (Option α)} {flags : List (Option Bool)}
    (h : flags.length ≤ rows.length) :
    keepWhere rows flags = (truePlaces flags).map fun i ↦ (rows[i]?).join := by
  induction flags generalizing rows with
  | nil => cases rows <;> rfl
  | cons m ms ih =>
    obtain ⟨row, rows, rfl⟩ := List.exists_cons_of_ne_nil (List.ne_nil_of_length_pos
      (Nat.lt_of_lt_of_le (Nat.succ_pos _) h))
    rw [keepWhere, truePlaces_cons, ih (Nat.le_of_succ_le_succ h), List.map_append, List.map_map]
    split <;> rfl

namespace Series

variable {s : Series} {flags : List (Option Bool)}

/-- A mask that is no longer than the series keeps the rows at its true places. -/
theorem keep_eq_select (h : flags.length ≤ s.length) :
    s.keep flags = .ok (s.select (truePlaces flags)) := by
  rw [keep, if_neg (Nat.not_lt.2 h), select_eq, keepWhere_eq_map h]

/-- A longer one is refused. -/
theorem keep_eq_error (h : s.length < flags.length) : s.keep flags = kernelFault .maskLength :=
  if_pos h

end Series

/-! ### Filters -/

/-- What the filter of a column by flags has to be: the rows at the true places, with a single flag
for all rows if there is not one row, and a failure for any other number of flags. What is known of
the order of the rows stays known. -/
structure FiltersBy (values : Column) (flags : List (Option Bool)) (result : Outcome Column) :
    Prop where
  each : flags.length = values.length →
    result = .ok { values with series := values.series.select (truePlaces flags) }
  all : ∀ flag, flags = [flag] → values.length ≠ 1 → result = .ok { values with
    series := if flag = some true then values.series else .empty values.dtype }
  fails : flags.length ≠ values.length → flags.length ≠ 1 → ∀ c, result ≠ .ok c

namespace Kind

variable {values mask : Column} {flags : List (Option Bool)}

/-- A filter keeps rows by the flags that its mask stands for. -/
theorem filterColumn_eq_keep (h : (if mask.isScalar && !values.isScalar then
    mask.series.broadcast values.length else .ok mask.series) = .ok (.ofFlags flags)) :
    filterColumn values mask =
      values.series.keep flags >>= fun s ↦ .ok { values with series := s } := by
  rw [filterColumn_eq_bind, h]
  rfl

/-- A single flag is for all rows, unless there is one row. -/
theorem filterColumn_single {flag : Option Bool} (hmask : mask.series = .ofFlags [flag])
    (hlen : values.length ≠ 1) : filterColumn values mask = .ok { values with
      series := if flag = some true then values.series else .empty values.dtype } := by
  have hscalar : (mask.isScalar && !values.isScalar) = true := by
    rw [Column.isScalar, Column.length, hmask, Column.isScalar, decide_eq_false hlen]
    rfl
  have hbroadcast : mask.series.broadcast values.length =
      .ok (.ofFlags (List.replicate values.length flag)) := by
    rw [hmask]
    exact Series.broadcast_single (d := .boolean) flag _
  have hkeep : values.series.keep (List.replicate values.length flag) =
      .ok (values.series.select (truePlaces (List.replicate values.length flag))) :=
    Series.keep_eq_select (Nat.le_of_eq List.length_replicate)
  rw [filterColumn_eq_keep (by rw [if_pos hscalar, hbroadcast]), hkeep, truePlaces_replicate,
    Outcome.ok_bind]
  split
  · rw [Column.length, Series.select_range]
  · rfl

/-- Any other flags are for as many rows. -/
theorem filterColumn_flags (hmask : mask.series = .ofFlags flags)
    (hlen : ¬(flags.length = 1 ∧ values.length ≠ 1)) : filterColumn values mask =
      values.series.keep flags >>= fun s ↦ .ok { values with series := s } := by
  have hmasklen : mask.length = flags.length := by
    rw [Column.length, hmask]
    rfl
  have hscalar : (mask.isScalar && !values.isScalar) = false :=
    Bool.eq_false_iff.2 fun h ↦ hlen (by simpa [Column.isScalar, hmasklen] using h)
  exact filterColumn_eq_keep (by rw [hscalar, hmask]; rfl)

/-- A mask that is no longer than the column, and is not for all of its rows, keeps the rows at its
true places. -/
theorem filterColumn_eq_select (hmask : mask.series = .ofFlags flags)
    (hlen : ¬(flags.length = 1 ∧ values.length ≠ 1)) (hle : flags.length ≤ values.length) :
    filterColumn values mask =
      .ok { values with series := values.series.select (truePlaces flags) } := by
  rw [filterColumn_flags hmask hlen, Series.keep_eq_select hle, Outcome.ok_bind]

/-- A mask that is longer is refused. -/
theorem filterColumn_eq_error (hmask : mask.series = .ofFlags flags) (hone : flags.length ≠ 1)
    (hlt : values.length < flags.length) :
    filterColumn values mask = kernelFault .maskLength := by
  rw [filterColumn_flags hmask (fun h ↦ hone h.1), Series.keep_eq_error hlt]
  rfl

/-- A mask of another type is refused. -/
theorem filterColumn_of_ne (hmask : mask.dtype ≠ .boolean) :
    filterColumn values mask = invalid .filterMask := by
  have hnone {s : Series} (hs : s.dtype = mask.dtype) : s.rowsAs? .boolean = none :=
    dif_neg (hs ▸ hmask)
  rw [filterColumn_eq_bind]
  split
  · next hscalar =>
    have hone : mask.series.rows.length = 1 := of_decide_eq_true (Bool.and_eq_true_iff.1 hscalar).1
    obtain ⟨s, hs⟩ := Series.exists_broadcast_iff (n := values.length).2 (.inr hone)
    rw [hs, Outcome.ok_bind, hnone (Series.dtype_broadcast hs)]
  · rw [Outcome.ok_bind, hnone rfl]

/-- A filter is what it has to be unless its mask is too short. -/
theorem filtersBy_iff (hmask : mask.series = .ofFlags flags) :
    FiltersBy values flags (filterColumn values mask) ↔
      values.length ≤ flags.length ∨ flags.length = 1 := by
  constructor
  · intro h
    by_contra hshort
    obtain ⟨hlt, hone⟩ := not_or.1 hshort
    have hlt := Nat.lt_of_not_le hlt
    exact h.fails (Nat.ne_of_lt hlt) hone _
      (filterColumn_eq_select hmask (fun h ↦ hone h.1) (Nat.le_of_lt hlt))
  · intro h
    refine ⟨fun heq ↦ ?_, ?_, fun hne hone c hc ↦ ?_⟩
    · exact filterColumn_eq_select hmask (fun h ↦ h.2 (heq ▸ h.1)) (Nat.le_of_eq heq)
    · rintro flag rfl hlen
      exact filterColumn_single hmask hlen
    · have hlt : values.length < flags.length := by omega
      rw [filterColumn_eq_error hmask hone hlt] at hc
      cases hc

end Kind

namespace Expr

variable {fr : Frame} {context : Context} {m : Mapping} {d : DataType} {v p : Expr}
  {values mask : Column}

/-- **What comes out of a filter.** By a mask of flags the filter is what it has to be if and only
if there are no fewer flags than rows, or a single one. If there are fewer flags, the rows beyond
the last one are dropped. A mask of another type is refused. -/
theorem evaluate_filter (hfind : m.find? (node d .filter [v, p]) = none)
    (hvalues : v.evaluate fr context m = .ok values) (hmask : p.evaluate fr context m = .ok mask) :
    (∀ flags, mask.series = .ofFlags flags →
      (FiltersBy values flags ((node d .filter [v, p]).evaluate fr context m) ↔
        values.length ≤ flags.length ∨ flags.length = 1) ∧
      (flags.length < values.length → flags.length ≠ 1 →
        (node d .filter [v, p]).evaluate fr context m =
          .ok { values with series := values.series.select (truePlaces flags) })) ∧
    (mask.dtype ≠ .boolean →
      (node d .filter [v, p]).evaluate fr context m = invalid .filterMask) := by
  have hnode : (node d .filter [v, p]).evaluate fr context m = Kind.filterColumn values mask :=
    evaluate_node_of_columns (fun _ ↦ rfl) hfind (.cons hvalues (.cons hmask .nil))
  rw [hnode]
  refine ⟨fun flags hflags ↦ ⟨Kind.filtersBy_iff hflags, fun hlt hone ↦ ?_⟩,
    Kind.filterColumn_of_ne⟩
  exact Kind.filterColumn_eq_select hflags (fun h ↦ hone h.1) (Nat.le_of_lt hlt)

/-- A frame of readings and of whether they can be trusted. -/
def readingsFrame : Frame :=
  ⟨[⟨"reading",
      { series := ⟨.int64, [some 1, none, some 3].map fun i ↦ i.map (FixedInt.wrap _)⟩ }⟩,
    ⟨"trusted", { series := .ofFlags [some true, none, some true] }⟩], rfl⟩

/-- The column of the readings. -/
def readingColumn : Expr := node .int64 (.col "reading") []

/-- The column that tells which readings can be trusted. -/
def trustedColumn : Expr := node .boolean (.col "trusted") []

/-- The readings that can be trusted. -/
theorem evaluate_filter_readings :
    (node .int64 .filter [readingColumn, trustedColumn]).evaluate readingsFrame .frame .empty =
      .ok { series := ⟨.int64, [some (FixedInt.wrap _ 1), some (FixedInt.wrap _ 3)]⟩ } := by
  obtain ⟨hflags, -⟩ :=
    @evaluate_filter readingsFrame .frame .empty .int64 readingColumn trustedColumn _ _ rfl rfl rfl
  exact ((hflags _ rfl).1.2 (.inl (Nat.le_refl 3))).each rfl

/-- A stored mask of two flags. -/
def firstTwo : Expr :=
  node .boolean (.literalColumn ⟨0, .ofFlags [some true, some true]⟩) []

/-- Two flags filter three rows. -/
theorem not_filtersBy_evaluate :
    ¬∀ (fr : Frame) (d : DataType) (v p : Expr) (values mask : Column) (flags : List (Option Bool)),
      (node d .filter [v, p]).WellFormed → fr.Declares (node d .filter [v, p]) →
        v.evaluate fr .frame .empty = .ok values → p.evaluate fr .frame .empty = .ok mask →
        mask.series = .ofFlags flags →
        FiltersBy values flags ((node d .filter [v, p]).evaluate fr .frame .empty) := by
  intro h
  have hfilter := h readingsFrame .int64 readingColumn firstTwo _ _ _ (by decide) (by decide) rfl
    rfl rfl
  exact hfilter.fails (by decide) (by decide) _ rfl

end Expr

end Tabular
