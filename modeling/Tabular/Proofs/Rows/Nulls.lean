import Tabular.Proofs.Grouping.Results
import Tabular.Proofs.Rows.Filtering
import Tabular.Proofs.Rows.Locality

/-!
# What counts as null

Whether a row is null is asked by several operations: by the tests for it, by the count of the
values, by the removal and the replacement of nulls, by the test for NaNs, and by membership. The
tests look at the row itself. The others go by the marks of the series or by the count of nulls that
is stored with it.

The two agree for every type but one (`Series.marked_eq`, `Series.nullCount_eq`). A series of the
null type has neither marks nor a count, so that its rows are nulls for the tests and values for all
the others (`TakesNullsForValues`). Therefore the operations have the same to say of the nulls of an
expression (`NullsAgree`) unless there are rows of the null type (`Expr.nullsAgree_iff`).
-/

namespace Tabular

/-! ### Flags of nulls and of values -/

section Flags

variable {α : Type} {rows : List (Option α)}

/-- Which of the rows are null. -/
def nullFlags (rows : List (Option α)) : List (Option Bool) := rows.map fun row ↦ some row.isNone

/-- Which of the rows are values. -/
def valueFlags (rows : List (Option α)) : List (Option Bool) := rows.map fun row ↦ some row.isSome

/-- A flag is set if there is a null. -/
@[simp]
theorem some_true_mem_nullFlags : some true ∈ nullFlags rows ↔ none ∈ rows := by
  simp [nullFlags]

/-- What is not null is a value. -/
theorem count_valueFlags (rows : List (Option α)) :
    (valueFlags rows).count (some true) + rows.countP Option.isNone = rows.length := by
  induction rows with
  | nil => rfl
  | cons row rows ih =>
    have hflags : valueFlags (row :: rows) = some row.isSome :: valueFlags rows := rfl
    rw [hflags, List.count_cons, List.countP_cons, List.length_cons]
    cases row <;> simp <;> omega

/-- The rows kept by the flags of values are the values. -/
theorem keepWhere_valueFlags (rows : List (Option α)) :
    keepWhere rows (valueFlags rows) = rows.filter Option.isSome := by
  induction rows with
  | nil => rfl
  | cons row rows ih =>
    have hflags : valueFlags (row :: rows) = some row.isSome :: valueFlags rows := rfl
    rw [hflags, keepWhere, List.filter_cons, ih]
    cases row <;> rfl

/-- Without values there is no place of one. -/
theorem truePlaces_valueFlags_of_nulls (h : ∀ row ∈ rows, row = none) :
    truePlaces (valueFlags rows) = [] := by
  have hflags : valueFlags rows = List.replicate rows.length (some false) := by
    rw [valueFlags, ← List.map_const']
    exact List.map_congr_left fun row hrow ↦ by rw [h row hrow]; rfl
  rw [hflags, truePlaces_replicate]
  rfl

end Flags

/-! ### Marks -/

namespace Series

variable {s t fill : Series}

/-- Rows of the null type are null. -/
theorem eq_none_of_null (hs : s.dtype = .null) {row : Option s.dtype.Value} (hrow : row ∈ s.rows) :
    row = none := by
  obtain ⟨d, rows⟩ := s
  obtain rfl : d = .null := hs
  cases row with
  | none => rfl
  | some v => cases v

/-- The marks say which rows are values, unless there are rows of the null type. -/
theorem marked_eq (h : s.dtype = .null → s.length = 0) : s.marked = s.rows.map Option.isSome := by
  obtain ⟨d, rows⟩ := s
  cases d with
  | null =>
    obtain rfl : rows = [] := List.eq_nil_of_length_eq_zero (h rfl)
    rfl
  | _ => rfl

/-- So does the stored count. -/
theorem nullCount_eq (h : s.dtype = .null → s.length = 0) :
    s.nullCount = s.rows.countP Option.isNone := by
  obtain ⟨d, rows⟩ := s
  cases d with
  | null =>
    obtain rfl : rows = [] := List.eq_nil_of_length_eq_zero (h rfl)
    rfl
  | _ => rfl

/-- What is left without nulls are the rows that are values, in their order. -/
theorem dropNulls_eq_select (h : s.dtype = .null → s.length = 0) :
    s.dropNulls = s.select (truePlaces (valueFlags s.rows)) := by
  have hlen : (valueFlags s.rows).length = s.rows.length := List.length_map _
  have hkept : (⟨s.dtype, s.rows.filter Option.isSome⟩ : Series) =
      s.select (truePlaces (valueFlags s.rows)) := by
    rw [select_eq, ← keepWhere_eq_map (Nat.le_of_eq hlen), keepWhere_valueFlags]
  rw [← hkept, dropNulls, nullCount_eq h]
  split
  · next hcount =>
    have hvalues (row) (hrow : row ∈ s.rows) : row.isSome = true :=
      Option.isSome_iff_ne_none.2 (by simpa using List.countP_eq_zero.1 hcount row hrow)
    rw [List.filter_eq_self.2 hvalues]
  · rfl

/-- Repeated rows are among the rows. -/
theorem mem_of_rowsFor {α : Type} {rows out : List α} {n : Nat} (h : rowsFor rows n = .ok out)
    {row : α} (hrow : row ∈ out) : row ∈ rows := by
  unfold rowsFor at h
  split at h
  · injection h with h
    exact h ▸ hrow
  · split at h
    · injection h with h
      rw [← h] at hrow
      exact List.mem_singleton.2 (List.eq_of_mem_replicate hrow)
    · cases h

/-- Filled from values there are no nulls left. -/
theorem none_notMem_fillNull (h : s.dtype = .null → s.length = 0) (hfill : fill.dtype = s.dtype)
    (hvalues : none ∉ fill.rows) (ht : s.fillNull fill = .ok t) : none ∉ t.rows := by
  rw [fillNull, nullCount_eq h] at ht
  split at ht
  · next hcount =>
    injection ht with ht
    subst ht
    exact fun hnone ↦ List.countP_eq_zero.1 hcount none hnone rfl
  · obtain ⟨d, rows⟩ := s
    obtain ⟨e, fills⟩ := fill
    obtain rfl : e = d := hfill
    rw [convertRows_self, Outcome.ok_bind] at ht
    obtain ⟨news, hnews, ht⟩ := Outcome.bind_eq_ok.1 ht
    injection ht with ht
    subst ht
    intro hnone
    rw [← List.map_uncurry_zip_eq_zipWith] at hnone
    obtain ⟨⟨row, new⟩, hpair, hnull⟩ := List.mem_map.1 hnone
    cases row with
    | none =>
      obtain rfl : new = none := hnull
      exact hvalues (mem_of_rowsFor hnews (List.of_mem_zip hpair).2)
    | some v => cases hnull

/-- The test for NaNs is null where the row is. -/
theorem nullFlags_nans (h : s.dtype = .null → s.length = 0) :
    nullFlags (Column.nans { series := s }) = nullFlags s.rows := by
  have hmarked := marked_eq h
  obtain ⟨d, rows⟩ := s
  cases d with
  | float t =>
    cases ht : t.hasArithmetic with
    | true => simp [Column.nans, Column.nanMask?, ht, nullFlags]
    | false =>
      simp only [Column.nans, Column.nanMask?, ht, Bool.false_eq_true, if_false, hmarked, nullFlags,
        List.map_map]
      exact List.map_congr_left fun row _ ↦ by cases row <;> rfl
  | _ =>
    simp only [Column.nans, Column.nanMask?, hmarked, nullFlags, List.map_map]
    exact List.map_congr_left fun row _ ↦ by cases row <;> rfl

/-- Membership among rows of the same type is null where the row is. -/
theorem exists_isIn (h : s.dtype = .null → s.length = 0) (ht : t.dtype = s.dtype) :
    ∃ flags, s.isIn t = .ok flags ∧ nullFlags flags = nullFlags s.rows := by
  have hrows : ∃ rows, t.rowsAs? s.dtype = some rows := ⟨_, dif_pos ht⟩
  obtain ⟨rows, hrows⟩ := hrows
  refine ⟨_, by rw [isIn, hrows], ?_⟩
  simp only [marked_eq h, ← List.map_prod_left_eq_zip, nullFlags, List.map_map]
  exact List.map_congr_left fun row _ ↦ by cases row <;> rfl

/-! ### Series of the null type -/

/-- Series of the null type store no count. -/
theorem nullCount_of_null (hs : s.dtype = .null) : s.nullCount = 0 := by
  obtain ⟨d, rows⟩ := s
  obtain rfl : d = .null := hs
  rfl

/-- Nor have they marks: every row counts as a value. -/
theorem mem_marked_of_null (hs : s.dtype = .null) {mark : Bool} (h : mark ∈ s.marked) :
    mark = true := by
  obtain ⟨d, rows⟩ := s
  obtain rfl : d = .null := hs
  obtain ⟨row, -, hmark⟩ := List.mem_map.1 h
  exact hmark.symm

/-- The test for NaNs answers for every row of the null type. -/
theorem none_notMem_nans_of_null (hs : s.dtype = .null) :
    none ∉ Column.nans { series := s } := by
  have hnans : Column.nans { series := s } =
      s.marked.map fun isValue ↦ if isValue then some false else none := by
    obtain ⟨d, rows⟩ := s
    obtain rfl : d = .null := hs
    rfl
  rw [hnans]
  intro hnone
  obtain ⟨mark, hmark, hnull⟩ := List.mem_map.1 hnone
  rw [mem_marked_of_null hs hmark] at hnull
  cases hnull

theorem none_notMem_isIn_of_null (hs : s.dtype = .null) {flags : List (Option Bool)}
    (h : s.isIn t = .ok flags) : none ∉ flags := by
  unfold isIn at h
  split at h
  · cases h
  · injection h with h
    subst h
    intro hnone
    obtain ⟨⟨row, mark⟩, hpair, hnull⟩ := List.mem_map.1 hnone
    obtain rfl := mem_marked_of_null hs (List.of_mem_zip hpair).2
    cases hnull

end Series

/-! ### Nodes -/

namespace Expr

variable {fr : Frame} {x haystack : Expr} {s : Series} {d : DataType}

/-- The test for null of an expression. -/
def isNull (x : Expr) : Expr := node .boolean (.booleanFunction .isNull) [x]

/-- The test for not null. -/
def isNotNull (x : Expr) : Expr := node .boolean (.booleanFunction .isNotNull) [x]

/-- The test for NaN. -/
def isNan (x : Expr) : Expr := node .boolean (.booleanFunction .isNan) [x]

/-- Membership in the rows of another expression. -/
def isIn (x haystack : Expr) : Expr := node .boolean (.booleanFunction .isIn) [x, haystack]

/-- The number of values. -/
def count (d : DataType) (x : Expr) : Expr := node d (.agg .count) [x]

/-- The rows without nulls. -/
def dropNulls (d : DataType) (x : Expr) : Expr := node d (.unaryFunction .dropNulls) [x]

/-- The rows with nulls replaced. -/
def fillNull (d : DataType) (x filler : Expr) : Expr :=
  node d (.unaryFunction .fillNull) [x, filler]

/-- A test of rows has the value that it has on the rows of its child. -/
theorem values_test {g : BooleanFunction} (hg : g.isRowWise = true)
    (hread : g.readsChild x.dtype = true) :
    (node d (.booleanFunction g) [x]).values fr .frame .empty =
      x.values fr .frame .empty >>= fun s ↦ g.onColumns [{ series := s }] := by
  rw [values_boolean hg (Mapping.find?_empty _), if_pos (by simpa using hread), List.mapM_cons]
  cases x.values fr .frame .empty <;> rfl

/-- The test for null looks at the rows themselves. -/
theorem values_isNull (fr : Frame) (x : Expr) : x.isNull.values fr .frame .empty =
    x.values fr .frame .empty >>= fun s ↦ .ok (.ofFlags (nullFlags s.rows)) :=
  values_test rfl rfl

theorem values_isNotNull (fr : Frame) (x : Expr) : x.isNotNull.values fr .frame .empty =
    x.values fr .frame .empty >>= fun s ↦ .ok (.ofFlags (valueFlags s.rows)) :=
  values_test rfl rfl

/-- The test for NaNs goes by the marks. -/
theorem values_isNan (fr : Frame) (x : Expr) : x.isNan.values fr .frame .empty =
    x.values fr .frame .empty >>= fun s ↦ .ok (.ofFlags (Column.nans { series := s })) :=
  values_test rfl rfl

/-- Membership goes by the marks of its rows. -/
theorem values_isIn (fr : Frame) (x haystack : Expr) : (x.isIn haystack).values fr .frame .empty =
    x.values fr .frame .empty >>= fun s ↦ haystack.values fr .frame .empty >>= fun t ↦
      s.isIn t >>= fun flags ↦ .ok (.ofFlags flags) := by
  have hread : ([x, haystack].all fun c ↦ BooleanFunction.isIn.readsChild c.dtype) = true := rfl
  rw [isIn, values_node (Mapping.find?_empty _), values, values]
  simp only [evaluateNode, if_pos hread]
  cases hx : x.evaluate fr .frame .empty with
  | error e =>
    simp only [List.map_cons, hx]
    rfl
  | ok c =>
    cases hhay : haystack.evaluate fr .frame .empty with
    | error e =>
      simp only [List.map_cons, hx, hhay]
      rfl
    | ok c' =>
      simp only [List.map_cons, hx, hhay]
      show (BooleanFunction.onColumns .isIn [c, c'] >>= fun s ↦ .ok { series := s }).map
        Column.series = c.series.isIn c'.series >>= fun flags ↦ .ok (.ofFlags flags)
      simp only [BooleanFunction.onColumns]
      cases c.series.isIn c'.series <;> rfl

/-- The count of values goes by the stored count. -/
theorem values_count (fr : Frame) (d : DataType) (x : Expr) :
    (x.count d).values fr .frame .empty = x.values fr .frame .empty >>= fun s ↦
      (Series.ofInt (s.length - s.nullCount : Nat)).cast d := by
  have hrequest : AggFunction.count.request [x] = .ok (.count false) := rfl
  exact values_agg rfl hrequest

/-- What is left without nulls goes by the marks. -/
theorem values_dropNulls (fr : Frame) (d : DataType) (x : Expr) :
    (x.dropNulls d).values fr .frame .empty =
      x.values fr .frame .empty >>= fun s ↦ .ok s.dropNulls :=
  values_function (Mapping.find?_empty _) fun _ ↦ rfl

/-- A filler of the type of the rows that it is to fill has the rows that it had before. -/
theorem fillerValues_of_dtype {filler : Expr} {t t' : Series}
    (ht : filler.values fr .frame .empty = .ok t)
    (ht' : filler.fillerValues fr .frame .empty t.dtype = .ok t') : t' = t := by
  unfold fillerValues at ht'
  split at ht'
  · next v hv =>
    obtain ⟨e, k, cs⟩ := filler
    cases k <;> cases hv
    have hliteral : v.toSeries e = .ok t := by
      rw [values_node (Mapping.find?_empty _)] at ht
      obtain ⟨c, hc, rfl⟩ := Outcome.map_eq_ok.1 ht
      obtain ⟨u, hu, hc⟩ := Outcome.bind_eq_ok.1 hc
      injection hc with hc
      exact hc ▸ hu
    rw [Literal.dtype_toSeries hliteral, hliteral] at ht'
    injection ht' with ht'
    exact ht'.symm
  · rw [ht] at ht'
    injection ht' with ht'
    exact ht'.symm

/-! ### Agreement -/

/-- What the operations have to say of the nulls of an expression with rows `s`, as soon as the
tests have told which rows are null and which are values. -/
structure NullsAgree (fr : Frame) (x : Expr) (s : Series) (null value : List (Option Bool)) :
    Prop where
  count : ∀ d, (x.count d).values fr .frame .empty =
    (Series.ofInt (value.count (some true))).cast d
  drop : ∀ d, (x.dropNulls d).values fr .frame .empty = .ok (s.select (truePlaces value))
  /-- Nulls are filled from values of the type; in the null type, from anything. -/
  fill : ∀ d filler t flags, filler.values fr .frame .empty = .ok t →
    (s.dtype ≠ .null → t.dtype = s.dtype ∧ none ∉ t.rows) →
      (x.fillNull d filler).isNull.values fr .frame .empty = .ok (.ofFlags flags) →
        some true ∉ flags
  nan : ∃ flags, x.isNan.values fr .frame .empty = .ok (.ofFlags flags) ∧ nullFlags flags = null
  member : ∀ haystack t, haystack.values fr .frame .empty = .ok t → t.dtype = s.dtype →
    ∃ flags, (x.isIn haystack).values fr .frame .empty = .ok (.ofFlags flags) ∧
      nullFlags flags = null

/-- What the operations say of rows `s` that they take for values. -/
structure TakesNullsForValues (fr : Frame) (x : Expr) (s : Series) : Prop where
  count : ∀ d, (x.count d).values fr .frame .empty = (Series.ofInt s.length).cast d
  drop : ∀ d, (x.dropNulls d).values fr .frame .empty = .ok s
  fill : ∀ d filler t, (x.fillNull d filler).values fr .frame .empty = .ok t → t = s
  nan : ∃ flags, x.isNan.values fr .frame .empty = .ok (.ofFlags flags) ∧ none ∉ flags
  member : ∀ haystack t, (x.isIn haystack).values fr .frame .empty = .ok t →
    ∃ flags, t = .ofFlags flags ∧ none ∉ flags

/-- Where the marks say which rows are null, the operations agree. -/
theorem NullsAgree.of_marked (hx : x.values fr .frame .empty = .ok s)
    (h : s.dtype = .null → s.length = 0) :
    NullsAgree fr x s (nullFlags s.rows) (valueFlags s.rows) where
  count d := by
    have hcount := count_valueFlags s.rows
    rw [values_count, hx, Outcome.ok_bind, Series.nullCount_eq h, Series.length, ← hcount,
      Nat.add_sub_cancel]
  drop d := by rw [values_dropNulls, hx, Outcome.ok_bind, Series.dropNulls_eq_select h]
  fill d filler t flags ht hvalues hflags := by
    rw [values_isNull] at hflags
    obtain ⟨out, hout, hflags⟩ := Outcome.bind_eq_ok.1 hflags
    injection hflags with hflags
    obtain rfl : nullFlags out.rows = flags := by simpa [Series.ofFlags] using hflags
    rw [some_true_mem_nullFlags]
    rw [fillNull, values_fillNull (Mapping.find?_empty _), hx, Outcome.ok_bind] at hout
    obtain ⟨fill, hfill, hout⟩ := Outcome.bind_eq_ok.1 hout
    by_cases hd : s.dtype = .null
    · -- there is nothing to fill
      have hrows : s.rows = [] := List.eq_nil_of_length_eq_zero (h hd)
      rw [Series.fillNull, if_pos (Series.nullCount_of_null hd)] at hout
      injection hout with hout
      rw [← hout, hrows]
      exact List.not_mem_nil
    · obtain ⟨htype, hnone⟩ := hvalues hd
      rw [← htype] at hfill
      obtain rfl := fillerValues_of_dtype ht hfill
      exact Series.none_notMem_fillNull h htype hnone hout
  nan := ⟨_, by rw [values_isNan, hx, Outcome.ok_bind], Series.nullFlags_nans h⟩
  member haystack t ht hd := by
    obtain ⟨flags, hflags, hnull⟩ := Series.exists_isIn h hd
    refine ⟨flags, ?_, hnull⟩
    rw [values_isIn, hx, Outcome.ok_bind, ht, Outcome.ok_bind, hflags, Outcome.ok_bind]

/-- Rows of the null type are taken for values. -/
theorem TakesNullsForValues.of_null (hx : x.values fr .frame .empty = .ok s)
    (hs : s.dtype = .null) : TakesNullsForValues fr x s where
  count d := by
    rw [values_count, hx, Outcome.ok_bind, Series.nullCount_of_null hs, Nat.sub_zero]
  drop d := by
    rw [values_dropNulls, hx, Outcome.ok_bind, Series.dropNulls,
      if_pos (Series.nullCount_of_null hs)]
  fill d filler t ht := by
    rw [fillNull, values_fillNull (Mapping.find?_empty _), hx, Outcome.ok_bind] at ht
    obtain ⟨fill, -, ht⟩ := Outcome.bind_eq_ok.1 ht
    rw [Series.fillNull, if_pos (Series.nullCount_of_null hs)] at ht
    injection ht with ht
    exact ht.symm
  nan := ⟨_, by rw [values_isNan, hx, Outcome.ok_bind], Series.none_notMem_nans_of_null hs⟩
  member haystack t ht := by
    rw [values_isIn, hx, Outcome.ok_bind] at ht
    obtain ⟨hay, -, ht⟩ := Outcome.bind_eq_ok.1 ht
    obtain ⟨flags, hflags, ht⟩ := Outcome.bind_eq_ok.1 ht
    injection ht with ht
    exact ⟨flags, ht.symm, Series.none_notMem_isIn_of_null hs hflags⟩

/-- **Operations agree on what is null** unless there are rows of the null type: the values are as
many as counted, what is left without nulls are the values in their order, there is no null after
nulls are filled from values, and the test for NaNs and membership are null where the row is. Rows
of the null type are nulls for the two tests and values for all of these operations. -/
theorem nullsAgree_iff (hx : x.values fr .frame .empty = .ok s) :
    ∃ null value, x.isNull.values fr .frame .empty = .ok (.ofFlags null) ∧
      x.isNotNull.values fr .frame .empty = .ok (.ofFlags value) ∧
        (NullsAgree fr x s null value ↔ (s.dtype = .null → s.length = 0)) ∧
          (s.dtype = .null → value.count (some true) = 0 ∧ TakesNullsForValues fr x s) := by
  refine ⟨nullFlags s.rows, valueFlags s.rows, by rw [values_isNull, hx, Outcome.ok_bind],
    by rw [values_isNotNull, hx, Outcome.ok_bind], ⟨fun h hs ↦ ?_, NullsAgree.of_marked hx⟩,
    fun hs ↦ ⟨?_, .of_null hx hs⟩⟩
  · have hdrop := h.drop .null
    rw [(TakesNullsForValues.of_null hx hs).drop,
      truePlaces_valueFlags_of_nulls fun _ ↦ Series.eq_none_of_null hs] at hdrop
    injection hdrop with hdrop
    rw [hdrop, Series.length_select]
    rfl
  · rw [List.count_eq_zero]
    intro hvalue
    obtain ⟨row, hrow, hsome⟩ := List.mem_map.1 hvalue
    rw [Series.eq_none_of_null hs hrow] at hsome
    cases hsome

/-- The readings, of which one is missing. -/
theorem nullsAgree_iff_readings :
    NullsAgree readingsFrame readingColumn
      ⟨.int64, [some 1, none, some 3].map fun i ↦ i.map (FixedInt.wrap _)⟩
      [some false, some true, some false] [some true, some false, some true] := by
  have hx : readingColumn.values readingsFrame .frame .empty =
      .ok ⟨.int64, [some 1, none, some 3].map fun i ↦ i.map (FixedInt.wrap _)⟩ := rfl
  obtain ⟨null, value, hnull, hvalue, hagree, -⟩ := nullsAgree_iff hx
  obtain rfl : [some false, some true, some false] = null := by
    rw [values_isNull, hx, Outcome.ok_bind] at hnull
    simpa [Series.ofFlags, nullFlags] using hnull
  obtain rfl : [some true, some false, some true] = value := by
    rw [values_isNotNull, hx, Outcome.ok_bind] at hvalue
    simpa [Series.ofFlags, valueFlags] using hvalue
  exact hagree.2 (by decide)

/-- A frame of one remark that nobody made. -/
def remarksFrame : Frame := ⟨[⟨"remark", { series := ⟨.null, [none]⟩ }⟩], rfl⟩

/-- The column of the remarks. -/
def remarkColumn : Expr := node .null (.col "remark") []

/-- A row of the null type is null and is counted as a value. -/
theorem not_nullsAgree_remarks :
    ¬∀ (fr : Frame) (x : Expr) (s : Series) (null value : List (Option Bool)),
      x.WellFormed → fr.Declares x → x.values fr .frame .empty = .ok s →
        x.isNull.values fr .frame .empty = .ok (.ofFlags null) →
          x.isNotNull.values fr .frame .empty = .ok (.ofFlags value) →
            NullsAgree fr x s null value := by
  intro h
  have hagree := h remarksFrame remarkColumn _ _ _ (by decide) (by decide) rfl rfl rfl
  have hdrop : (.ok ⟨.null, [none]⟩ : Outcome Series) = .ok ⟨.null, []⟩ := hagree.drop .null
  cases hdrop

end Expr

end Tabular
