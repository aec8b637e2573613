import Mathlib.Data.List.Nodup
import Tabular.Frame
import Tabular.Proofs.Outcome
import Tabular.Proofs.Rows.Elementwise

/-!
# Frames of selected rows

The rows of a frame at given places make up a frame of their own, `Frame.select`, with the same
columns (`Frame.column_select`, `Frame.rows_select`). A group of rows is seen as such a frame.

To have a frame at all, columns have to be of one length and distinct names
(`Frame.ofColumns_eq_ok`), and to have columns of one length, single rows are broadcast
(`Series.exists_broadcast_iff`). Both survive a selection: a row that was broadcast is the row that
stood for the place (`Series.select_broadcast`), and a selection of one row of a selection is a
selection of one row (`Frame.select_select`).

A place that the frame does not have is a null row of the selection, which therefore always exists.
Where selections are used the places are those of rows, and nothing is lost: all places in their
order select the frame itself (`Frame.select_range`).
-/

namespace Tabular

namespace Series

/-- Selected rows are looked up one by one; what is not there is null. -/
theorem select_eq (s : Series) (places : List Nat) :
    s.select places = ⟨s.dtype, places.map fun i ↦ (s.rows[i]?).join⟩ := by
  simp [select, take, Function.comp_def]

@[simp]
theorem length_select (s : Series) (places : List Nat) :
    (s.select places).length = places.length := by
  rw [select_eq, length, List.length_map]

/-- The rows at all places, in their order, are the rows. -/
theorem map_range_rows (s : Series) :
    (List.range s.length).map (fun i ↦ (s.rows[i]?).join) = s.rows := by
  refine List.ext_getElem (by rw [List.length_map, List.length_range, length]) fun i _ hi ↦ ?_
  rw [List.getElem_map, List.getElem_range, List.getElem?_eq_getElem hi]
  rfl

/-- All places in their order select the series itself. -/
@[simp]
theorem select_range (s : Series) : s.select (List.range s.length) = s := by
  rw [select_eq, map_range_rows]

/-- One place selects the row that is there. -/
theorem select_singleton {s : Series} {i : Nat} {x : Option s.dtype.Value}
    (h : s.rows[i]? = some x) : s.select [i] = single s.dtype x := by
  rw [select_eq, List.map_singleton, h]
  rfl

/-- Series of one length pass the check of their lengths. -/
theorem any_length_ne {keys : List Series} {n : Nat} (h : ∀ s ∈ keys, s.length = n) :
    (keys.any fun s ↦ s.length ≠ n) = false := by
  rw [List.any_eq_false]
  intro s hs
  rw [h s hs]
  simp

/-- A row of selected rows is the row at its place. -/
theorem select_select (s : Series) (places : List Nat) {j : Nat} (hj : j < places.length) :
    (s.select places).select [j] = s.select [places[j]] := by
  rw [select_eq s, select_eq s, select_eq, List.map_singleton, List.map_singleton,
    List.getElem?_map, List.getElem?_eq_getElem hj]
  rfl

/-- The row at a place of the series is selected by it. -/
theorem pick_eq_select {s : Series} {i : Nat} (hi : i < s.length) : s.pick i = s.select [i] := by
  have hplace : (if s.rows.length = 1 then 0 else i) = i := by
    split
    · next h1 =>
      rw [length, h1] at hi
      omega
    · rfl
  have hrow : s.rows[i]? = some s.rows[i] := List.getElem?_eq_getElem hi
  rw [pick_eq (show rowAt s.rows i = some s.rows[i] by rw [rowAt, hplace, hrow]),
    select_singleton hrow]

/-- A series whose rows are those at the places of another is the selection of these rows. -/
theorem eq_select {s t : Series} {places : List Nat} (hne : places ≠ [])
    (hlen : t.length = places.length)
    (h : ∀ j (hj : j < places.length), t.select [j] = s.select [places[j]]) :
    t = s.select places := by
  obtain ⟨d, rows⟩ := s
  obtain ⟨e, out⟩ := t
  obtain rfl : e = d := congrArg dtype (h 0 (List.length_pos_iff.2 hne))
  rw [select_eq]
  congr 1
  refine List.ext_getElem (hlen.trans (List.length_map _).symm) fun j hj hj' ↦ ?_
  have hrow := h j (hlen ▸ hj)
  simp only [select_eq, List.map_singleton] at hrow
  injection hrow with _ hrow
  injection hrow with hrow
  rw [List.getElem?_eq_getElem hj] at hrow
  rw [List.getElem_map]
  exact hrow

/-! ### Broadcasting -/

section Broadcast

variable {s t : Series} {n : Nat}

/-- A series of the right length is left as it is. -/
theorem broadcast_self (h : s.length = n) : s.broadcast n = .ok s := by
  rw [broadcast, if_pos h]

/-- A single row is repeated. -/
@[simp]
theorem broadcast_single {d : DataType} (x : Option d.Value) (n : Nat) :
    (⟨d, [x]⟩ : Series).broadcast n = .ok ⟨d, List.replicate n x⟩ := by
  unfold broadcast
  split
  · next h =>
    rw [← h]
    rfl
  · rfl

/-- A series is broadcast to exactly the places that it fits. -/
theorem exists_broadcast_iff : (∃ t, s.broadcast n = .ok t) ↔ Fits s.rows n := by
  constructor
  · rintro ⟨t, h⟩
    unfold broadcast at h
    split at h
    · next hlen => exact .inl hlen
    · split at h
      · next hrows => exact .inr (congrArg List.length hrows)
      · cases h
  · rintro (h | h)
    · exact ⟨s, broadcast_self h⟩
    · obtain ⟨d, rows⟩ := s
      obtain ⟨x, rfl⟩ : ∃ x, rows = [x] := List.length_eq_one_iff.1 h
      exact ⟨_, broadcast_single x n⟩

/-- After broadcasting there is a row for each place, the one that stood there before. -/
theorem length_broadcast (h : s.broadcast n = .ok t) : t.length = n := by
  rcases exists_broadcast_iff.1 ⟨t, h⟩ with hlen | hlen
  · rw [broadcast_self hlen] at h
    injection h with h
    exact h ▸ hlen
  · obtain ⟨d, rows⟩ := s
    obtain ⟨x, rfl⟩ : ∃ x, rows = [x] := List.length_eq_one_iff.1 hlen
    rw [broadcast_single] at h
    injection h with h
    exact h ▸ List.length_replicate

theorem dtype_broadcast (h : s.broadcast n = .ok t) : t.dtype = s.dtype := by
  unfold broadcast at h
  split at h
  · injection h with h
    exact h ▸ rfl
  · split at h
    · injection h with h
      exact h ▸ rfl
    · cases h

/-- At every place of a broadcast series stands the row that stood for it. -/
theorem select_broadcast (h : s.broadcast n = .ok t) {i : Nat} (hi : i < n) :
    t.select [i] = s.pick i := by
  rcases exists_broadcast_iff.1 ⟨t, h⟩ with hlen | hlen
  · rw [broadcast_self hlen] at h
    injection h with h
    subst h
    exact (pick_eq_select (Nat.lt_of_lt_of_eq hi hlen.symm)).symm
  · obtain ⟨d, rows⟩ := s
    obtain ⟨x, rfl⟩ : ∃ x, rows = [x] := List.length_eq_one_iff.1 hlen
    rw [broadcast_single] at h
    injection h with h
    subst h
    have hrow : (List.replicate n x)[i]? = some x := by rw [List.getElem?_replicate, if_pos hi]
    rw [pick_eq (s := ⟨d, [x]⟩) (rowAt_singleton x),
      select_singleton (s := ⟨d, List.replicate n x⟩) hrow]

end Broadcast

end Series

/-! ### Columns of a frame -/

/-- The check of columns: they have the length asked for, and their names are new and distinct. -/
theorem checkColumns_eq_ok {rows : Nat} {names : List String} {cs : List NamedColumn} :
    checkColumns rows names cs = .ok () ↔ (∀ c ∈ cs, c.column.length = rows) ∧
      (cs.map NamedColumn.name).Nodup ∧ ∀ c ∈ cs, c.name ∉ names := by
  induction cs generalizing names with
  | nil => simp [checkColumns]
  | cons c cs ih =>
    unfold checkColumns
    by_cases hlen : c.column.length = rows
    · by_cases hname : c.name ∈ names
      · simp [hlen, hname, invalid]
      · rw [if_neg (not_not.2 hlen), if_neg (by simpa using hname), ih]
        simp only [List.mem_cons, forall_eq_or_imp, List.map_cons, List.nodup_cons, List.mem_map,
          not_or, forall_and, not_exists, not_and]
        constructor
        · rintro ⟨hrows, hnodup, hne, hnew⟩
          exact ⟨⟨hlen, hrows⟩, ⟨hne, hnodup⟩, hname, hnew⟩
        · rintro ⟨⟨-, hrows⟩, ⟨hne, hnodup⟩, -, hnew⟩
          exact ⟨hrows, hnodup, hne, hnew⟩
    · simp [hlen, invalid]

namespace Frame

/-- Columns make up a frame if they have the same length and distinct names. -/
theorem ofColumns_eq_ok {cs : List NamedColumn} {f : Frame} :
    ofColumns cs = .ok f ↔ (∀ c ∈ cs, c.column.length = rowsOfFirst cs) ∧
      (cs.map NamedColumn.name).Nodup ∧ f.columns = cs := by
  have hcheck : checkColumns (rowsOfFirst cs) [] cs = .ok () ↔
      (∀ c ∈ cs, c.column.length = rowsOfFirst cs) ∧ (cs.map NamedColumn.name).Nodup := by
    simp [checkColumns_eq_ok]
  unfold ofColumns
  split
  · next h =>
    obtain ⟨hrows, hnodup⟩ := hcheck.1 h
    obtain ⟨columns, checked⟩ := f
    rw [Outcome.ok_eq_ok, Frame.mk.injEq]
    exact ⟨fun hf ↦ ⟨hrows, hnodup, hf⟩, fun hf ↦ hf.2.2⟩
  · next e h =>
    refine ⟨nofun, fun hf ↦ ?_⟩
    rw [hcheck.2 ⟨hf.1, hf.2.1⟩] at h
    cases h

/-- The columns of a frame make it up. -/
@[simp]
theorem ofColumns_columns (f : Frame) : ofColumns f.columns = .ok f := by
  obtain ⟨hrows, hnodup, -⟩ := checkColumns_eq_ok.1 f.checked
  exact ofColumns_eq_ok.2 ⟨hrows, hnodup, rfl⟩

/-- Columns of one length with distinct names make up a frame. -/
theorem exists_ofColumns {cs : List NamedColumn} {n : Nat} (hlen : ∀ c ∈ cs, c.column.length = n)
    (hnodup : (cs.map NamedColumn.name).Nodup) : ∃ f, ofColumns cs = .ok f := by
  have hrows (c : NamedColumn) (hc : c ∈ cs) : c.column.length = rowsOfFirst cs := by
    cases cs with
    | nil => cases hc
    | cons first rest => exact (hlen c hc).trans (hlen first List.mem_cons_self).symm
  have hcheck : checkColumns (rowsOfFirst cs) [] cs = .ok () :=
    checkColumns_eq_ok.2 ⟨hrows, hnodup, nofun⟩
  exact ⟨⟨cs, hcheck⟩, ofColumns_eq_ok.2 ⟨hrows, hnodup, rfl⟩⟩

/-- All columns have as many rows as the frame. -/
theorem length_eq_rows {f : Frame} {c : NamedColumn} (hc : c ∈ f.columns) :
    c.column.length = f.rows :=
  (checkColumns_eq_ok.1 f.checked).1 c hc

/-- A column that is found is one of the frame. -/
theorem column_eq_ok {f : Frame} {name : String} {c : Column} (h : f.column name = .ok c) :
    ⟨name, c⟩ ∈ f.columns := by
  unfold column at h
  split at h
  · next c' hc =>
    injection h with h
    have hname : c'.name = name := by simpa using List.find?_some hc
    subst h hname
    exact List.mem_of_find?_eq_some hc
  · cases h

/-- A column is found under its name. -/
theorem column_of_mem {f : Frame} {c : NamedColumn} (hc : c ∈ f.columns) :
    f.column c.name = .ok c.column := by
  have hnodup := (checkColumns_eq_ok.1 f.checked).2.1
  obtain ⟨c', hc'⟩ : ∃ c', f.columns.find? (·.name == c.name) = some c' :=
    Option.isSome_iff_exists.1 (List.find?_isSome.2 ⟨c, hc, beq_self_eq_true _⟩)
  have hname : c'.name = c.name := by simpa using List.find?_some hc'
  obtain rfl : c' = c := List.inj_on_of_nodup_map hnodup (List.mem_of_find?_eq_some hc') hc hname
  rw [column, hc']

end Frame

/-- The rows of a column at the given places. The claim about its order stays. -/
def NamedColumn.select (c : NamedColumn) (places : List Nat) : NamedColumn :=
  ⟨c.name, { c.column with series := c.column.series.select places }⟩

@[simp]
theorem NamedColumn.length_select (c : NamedColumn) (places : List Nat) :
    (c.select places).column.length = places.length :=
  Series.length_select _ _

namespace Frame

/-- The frame of the rows at the given places. -/
def select (f : Frame) (places : List Nat) : Frame where
  columns := f.columns.map (·.select places)
  checked := by
    have hnodup := (checkColumns_eq_ok.1 f.checked).2.1
    refine checkColumns_eq_ok.2 ⟨?_, by rwa [List.map_map], nofun⟩
    cases f.columns with
    | nil => nofun
    | cons c cs =>
      simp only [List.map_cons, rowsOfFirst, NamedColumn.length_select, List.forall_mem_cons,
        List.forall_mem_map, implies_true, and_self]

/-- All places in their order select the frame itself. -/
@[simp]
theorem select_range (f : Frame) : f.select (List.range f.rows) = f := by
  have hcolumn (c : NamedColumn) (hc : c ∈ f.columns) : c.select (List.range f.rows) = c := by
    have hlen : c.column.series.length = f.rows := length_eq_rows hc
    rw [NamedColumn.select, ← hlen, Series.select_range]
  obtain ⟨columns, checked⟩ := f
  simp only [select, Frame.mk.injEq]
  exact (List.map_congr_left hcolumn).trans (List.map_id' _)

variable {f : Frame} {places : List Nat}

/-- A column of a selection is the selection of the column. -/
theorem column_select (name : String) :
    (f.select places).column name = (f.column name).map fun c ↦
      { c with series := c.series.select places } := by
  unfold column select
  simp only [List.find?_map, Function.comp_def, NamedColumn.select]
  cases f.columns.find? (·.name == name) <;> rfl

/-- A selection has a row for each place. -/
theorem rows_select (h : ∀ i ∈ places, i < f.rows) : (f.select places).rows = places.length := by
  have hrows : (f.select places).rows = rowsOfFirst (f.columns.map (·.select places)) := rfl
  rw [hrows]
  unfold rows at h
  match f.columns, places, h with
  | c :: _, places, _ => exact c.length_select places
  | [], [], _ => rfl
  | [], i :: _, h => exact absurd (h i List.mem_cons_self) (Nat.not_lt_zero i)

/-- A row of a selection is the row at its place. -/
theorem select_select {j : Nat} (hj : j < places.length) :
    (f.select places).select [j] = f.select [places[j]] := by
  unfold select
  simp only [List.map_map, Frame.mk.injEq]
  refine List.map_congr_left fun c _ ↦ ?_
  simp only [Function.comp_apply, NamedColumn.select, Series.select_select _ _ hj]

end Frame

end Tabular
