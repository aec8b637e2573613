import Tabular.Proofs.Expr.Values
import Tabular.Proofs.Rows.Selection

/-!
# The operations that work row by row

Conversions, casts, elementary functions, rounding, leaving out NaNs and filling nulls from a single
value work on one row at a time. What each of them does with a row depends on the type of the series
alone, and so does the type of what it gives. `Series.elementwise_rowKernel` sums this up for the
functions of one column.

A kernel may look at the whole series first, for a shortcut: nothing is converted if the type is
right, nothing filled if no null is counted, no NaN masked if there is none. Each of these shortcuts
is taken where its longer way would change nothing, and this is what the proofs are about.

Only series with rows are spoken of (`Series.ElementwiseOn`). A kernel that is given no rows may
take its shortcut past a step that would fail on any row, or fail because of the types alone, and
then no function of single rows tells what it does.
-/

namespace Tabular

/-! ### Traversals in two steps -/

section Traversal

variable {α β γ : Type}

/-- A traversal by a function that does not fail is a map. -/
@[simp]
theorem mapM_ok (f : α → β) (as : List α) : as.mapM (fun a ↦ Except.ok (f a)) =
    (.ok (as.map f) : Outcome (List β)) := by
  rw [Outcome.mapM_eq_ok, List.forall₂_map_right_iff, List.forall₂_same]
  exact fun _ _ ↦ rfl

/-- One traversal after the other is a traversal in which the two functions follow each other. -/
theorem mapM_bind_eq_ok {f : α → Outcome β} {g : β → Outcome γ} {as : List α} {cs : List γ} :
    as.mapM (fun a ↦ f a >>= g) = .ok cs ↔ ∃ bs, as.mapM f = .ok bs ∧ bs.mapM g = .ok cs := by
  simp only [Outcome.mapM_eq_ok, Outcome.bind_eq_ok]
  constructor
  · intro h
    induction h with
    | nil => exact ⟨[], .nil, .nil⟩
    | cons hac _ ih =>
      obtain ⟨b, hab, hbc⟩ := hac
      obtain ⟨bs, habs, hbcs⟩ := ih
      exact ⟨b :: bs, .cons hab habs, .cons hbc hbcs⟩
  · rintro ⟨bs, hab, hbc⟩
    induction hab generalizing cs with
    | nil =>
      cases hbc
      exact .nil
    | cons hab _ ih =>
      cases hbc with
      | cons hbc hbcs => exact .cons ⟨_, hab, hbc⟩ (ih hbcs)

end Traversal

namespace Series

variable {d d' e : DataType}

/-! ### Operations with one operand -/

section OneOperand

variable {k : Series → Outcome Series}

/-- Rows that are given a type. -/
theorem ok_mk_eq_ok {rows : List (Option d.Value)} {t : Series} :
    (.ok ⟨d, rows⟩ : Outcome Series) = .ok t ↔
      ∃ out, (.ok rows : Outcome (List (Option d.Value))) = .ok out ∧ t = ⟨d, out⟩ := by
  constructor
  · intro ht
    injection ht with ht
    exact ⟨rows, rfl, ht.symm⟩
  · rintro ⟨_, ⟨⟩, rfl⟩
    rfl

/-- A function of rows that never fails. -/
theorem ElementwiseOn.of_map (d' : DataType) (f : Option d.Value → Option d'.Value)
    (h : ∀ rows, k ⟨d, rows⟩ = .ok ⟨d', rows.map f⟩) : ElementwiseOn d k := by
  refine ⟨d', fun x ↦ .ok (f x), fun rows t _ ↦ ?_⟩
  rw [h, mapM_ok]
  exact ok_mk_eq_ok

/-- An operation that a type is refused to. -/
theorem ElementwiseOn.of_error (h : ∀ rows, ∃ err, k ⟨d, rows⟩ = .error err) :
    ElementwiseOn d k := by
  obtain ⟨err, -⟩ := h []
  refine ⟨d, fun _ ↦ .error err, fun rows t hne ↦ ?_⟩
  obtain ⟨err', hk⟩ := h rows
  rw [hk]
  exact ⟨nofun, fun ⟨_, hout, _⟩ ↦ absurd hout (Outcome.mapM_error_ne_ok hne)⟩

end OneOperand

/-- The conversion of a single row. -/
def convertRow (s d : DataType) (row : Option s.Value) : Outcome (Option d.Value) :=
  if h : s = d then .ok (h ▸ row)
  else if s = .null then .ok none
  else Conversion.between s d >>= fun f ↦ f row

/-- Rows are converted one by one, if there are any. -/
theorem convertRows_eq_ok {rows : List (Option d.Value)} (hne : rows ≠ [])
    {out : List (Option e.Value)} :
    (⟨d, rows⟩ : Series).convertRows e = .ok out ↔ rows.mapM (convertRow d e) = .ok out := by
  unfold convertRows convertRow
  by_cases hde : d = e
  · subst hde
    simp only [dif_pos]
    rw [mapM_ok, List.map_id']
  · simp only [dif_neg hde]
    by_cases hnull : d = .null
    · simp only [if_pos hnull]
      rw [mapM_ok, List.map_const']
      rfl
    · simp only [if_neg hnull]
      cases Conversion.between d e with
      | ok f => rfl
      | error err => exact ⟨nofun, fun hout ↦ absurd hout (Outcome.mapM_error_ne_ok hne)⟩

theorem length_of_convertRows {rows : List (Option d.Value)} {out : List (Option e.Value)}
    (h : (⟨d, rows⟩ : Series).convertRows e = .ok out) : out.length = rows.length := by
  unfold convertRows at h
  by_cases hde : d = e
  · subst hde
    rw [dif_pos rfl, Outcome.ok_eq_ok] at h
    rw [h]
  · rw [dif_neg hde] at h
    split at h
    · rw [Outcome.ok_eq_ok] at h
      rw [h, List.length_replicate, length]
    · obtain ⟨f, -, h⟩ := Outcome.bind_eq_ok.1 h
      exact (Outcome.mapM_eq_ok.1 h).length_eq.symm

theorem elementwise_convert (d : DataType) : Elementwise fun s ↦ s.convert d := by
  refine fun e ↦ ⟨d, convertRow e d, fun rows t hne ↦ ?_⟩
  simp only [convert, Outcome.bind_eq_ok, convertRows_eq_ok hne]
  exact exists_congr fun out ↦ and_congr_right fun _ ↦ Outcome.ok_eq_ok

theorem elementwise_cast (d : DataType) : Elementwise fun s ↦ s.cast d := by
  intro e
  by_cases hed : e = d
  · exact .of_map e id fun rows ↦ by rw [cast, if_pos hed, List.map_id]
  · by_cases hcan : e.canCast d = true
    · have hcast (rows) : (⟨e, rows⟩ : Series).cast d = (⟨e, rows⟩ : Series).convert d := by
        rw [cast, if_neg hed, if_pos hcan]
      simp only [ElementwiseOn, hcast]
      exact elementwise_convert d e
    · exact .of_error fun rows ↦ ⟨_, by rw [cast, if_neg hed, if_neg hcan]; rfl⟩

theorem elementwise_math (op : MathOp) : Elementwise (math op) := by
  intro d
  cases d with
  | boolean =>
    by_cases hop : op = .not ∨ op = .bitInvert
    · exact .of_map .boolean (Option.map Bool.not) fun rows ↦ if_pos hop
    · exact .of_error fun rows ↦ ⟨_, if_neg hop⟩
  | integer t =>
    cases hf : op.onInts? (t := t) with
    | some f => exact .of_map (.integer t) (Option.map f) fun rows ↦ by simp only [math, hf]
    | none => exact .of_error fun rows ↦ ⟨_, by simp only [math, hf]; rfl⟩
  | float t =>
    cases ht : t.hasArithmetic with
    | false => exact .of_error fun rows ↦ ⟨_, by simp only [math, ht]; rfl⟩
    | true =>
      cases hf : op.onFloats? (t := t) with
      | some f => exact .of_map (.float t) (Option.map f) fun rows ↦ by simp only [math, ht, hf]
      | none => exact .of_error fun rows ↦ ⟨_, by simp only [math, ht, hf]; rfl⟩
  | _ => exact .of_error fun rows ↦ ⟨_, rfl⟩

theorem elementwise_round (decimals : Nat) : Elementwise (round decimals) := by
  intro d
  cases d with
  | integer t => exact .of_map (.integer t) id fun rows ↦ by rw [round, List.map_id]
  | float t =>
    cases ht : t.hasArithmetic with
    | true => exact .of_map (.float t) _ fun rows ↦ if_pos ht
    | false => exact .of_error fun rows ↦ ⟨_, if_neg (Bool.not_eq_true _ ▸ ht)⟩
  | _ => exact .of_error fun rows ↦ ⟨_, rfl⟩

/-- Of floating-point numbers, NaNs become nulls, also where the shortcut for none is taken. -/
theorem maskNans_float {t : FloatType} (ht : t.hasArithmetic = true)
    (rows : List (Option (Binary t))) :
    (⟨.float t, rows⟩ : Series).maskNans =
      ⟨.float t, rows.map (Option.filter fun x ↦ !x.isNan)⟩ := by
  unfold maskNans Column.maskNans
  split
  · next hcount =>
    simp only [Column.nanCount, Column.nanMask?, ht, if_true] at hcount
    -- no row is a NaN, so none is left out
    have hnone (x : Binary t) (hx : some x ∈ rows) : x.isNan = false := by
      by_contra hnan
      rw [Bool.not_eq_false] at hnan
      have hmem : some true ∈ rows.map (Option.map Binary.isNan) :=
        List.mem_map.2 ⟨some x, hx, by rw [Option.map_some, hnan]⟩
      exact absurd hcount (Nat.ne_of_gt (List.count_pos_iff.2 hmem))
    have hkeep : rows.map (Option.filter fun x ↦ !x.isNan) = rows.map id := by
      refine List.map_congr_left fun row hrow ↦ ?_
      cases row with
      | none => rfl
      | some x => simp [Option.filter, hnone x hrow]
    rw [hkeep, List.map_id]
  · rfl

/-- Half precision is not searched for NaNs. -/
theorem maskNans_of_not_hasArithmetic {t : FloatType} (ht : t.hasArithmetic = false)
    (rows : List (Option (Binary t))) :
    (⟨.float t, rows⟩ : Series).maskNans = ⟨.float t, rows⟩ := by
  simp [maskNans, Column.maskNans, Column.nanCount, Column.nanMask?, ht]

/-- Leaving out NaNs works row by row. -/
theorem elementwise_maskNans : Elementwise fun s ↦ .ok s.maskNans := by
  intro d
  cases d with
  | float t =>
    cases ht : t.hasArithmetic with
    | true => exact .of_map (.float t) _ fun rows ↦ by rw [maskNans_float ht]
    | false => exact .of_map _ id fun rows ↦ by rw [List.map_id, maskNans_of_not_hasArithmetic ht]
  | _ => exact .of_map _ id fun rows ↦ by rw [List.map_id]; rfl

/-- One operation after the other. -/
theorem Elementwise.comp {k k' : Series → Outcome Series} (hk : Elementwise k)
    (hk' : Elementwise k') : Elementwise fun s ↦ k s >>= k' := by
  intro d
  obtain ⟨d', f, hf⟩ := hk d
  obtain ⟨d'', f', hf'⟩ := hk' d'
  refine ⟨d'', fun x ↦ f x >>= f', fun rows t hne ↦ ?_⟩
  simp only [Outcome.bind_eq_ok, hf rows _ hne, mapM_bind_eq_ok]
  constructor
  · rintro ⟨_, ⟨mid, hmid, rfl⟩, ht⟩
    have hne' : mid ≠ [] := Outcome.ne_nil_of_mapM hmid hne
    obtain ⟨out, hout, rfl⟩ := (hf' mid t hne').1 ht
    exact ⟨out, ⟨mid, hmid, hout⟩, rfl⟩
  · rintro ⟨out, ⟨mid, hmid, hout⟩, rfl⟩
    have hne' : mid ≠ [] := Outcome.ne_nil_of_mapM hmid hne
    exact ⟨_, ⟨mid, hmid, rfl⟩, (hf' mid _ hne').2 ⟨out, hout, rfl⟩⟩

/-- What leaves a series as it is works row by row. -/
theorem elementwise_ok : Elementwise .ok :=
  fun d ↦ .of_map d id fun rows ↦ by rw [List.map_id]

/-- The functions of one column that are said to work row by row do. -/
theorem elementwise_rowKernel {f : UnaryFunction} {k : Series → Outcome Series}
    (hk : f.rowKernel? d = some k) : Elementwise k := by
  cases f <;> cases hk
  case math op => exact (elementwise_cast d).comp (elementwise_math op)
  case maskNans => exact elementwise_maskNans
  case round decimals => exact elementwise_round decimals
  case setSorted => exact elementwise_ok

/-- No null is counted where there is none, unless the rows are of the null type. -/
theorem nullCount_eq_zero {rows : List (Option d.Value)} (hd : d ≠ .null) :
    (⟨d, rows⟩ : Series).nullCount = 0 ↔ ∀ row ∈ rows, row.isNone = false := by
  have hcount : (⟨d, rows⟩ : Series).nullCount = rows.countP Option.isNone := by
    cases d <;> first | rfl | exact absurd rfl hd
  rw [hcount, List.countP_eq_zero]
  simp only [Bool.not_eq_true]

theorem zipWith_replicate_length {α β γ : Type} (f : α → β → γ) (as : List α) (b : β) :
    List.zipWith f as (List.replicate as.length b) = as.map (f · b) := by
  induction as with
  | nil => rfl
  | cons a as ih => rw [List.length_cons, List.replicate_succ, List.zipWith_cons_cons, ih,
      List.map_cons]

/-- A single row as the rows for `n` places. -/
@[simp]
theorem rowsFor_singleton {α : Type} (y : α) (n : Nat) :
    rowsFor [y] n = .ok (List.replicate n y) := by
  unfold rowsFor
  split
  · next h =>
    rw [← h]
    rfl
  · rfl

/-- Nulls filled from a single value, which may depend on the type that it is to fit. -/
theorem elementwise_fillNull (filler : DataType → Outcome Series)
    (h : ∀ d t, filler d = .ok t → t.length = 1) :
    Elementwise fun s ↦ filler s.dtype >>= fun t ↦ s.fillNull t := by
  intro d
  cases hf : filler d with
  | error err => exact .of_error fun rows ↦ ⟨err, by simp only [hf]; rfl⟩
  | ok t =>
    obtain ⟨e, ts⟩ := t
    obtain ⟨x, rfl⟩ : ∃ x, ts = [x] := List.length_eq_one_iff.1 (h d _ hf)
    by_cases hd : d = .null
    · subst hd
      exact .of_map .null id fun rows ↦ by simp only [hf, List.map_id]; rfl
    refine ⟨d, fun row ↦ if row.isNone then convertRow e d x else .ok row, fun rows t hne ↦ ?_⟩
    simp only [hf, Outcome.ok_bind, fillNull]
    by_cases hcount : (⟨d, rows⟩ : Series).nullCount = 0
    · have hrows := (nullCount_eq_zero hd).1 hcount
      have hmap : rows.mapM (fun row ↦ if row.isNone then convertRow e d x else .ok row) =
          .ok rows := by
        rw [Outcome.mapM_eq_ok, List.forall₂_same]
        exact fun row hrow ↦ if_neg (Bool.eq_false_iff.1 (hrows row hrow))
      rw [if_pos hcount, hmap]
      exact ok_mk_eq_ok
    · rw [if_neg hcount]
      cases hx : convertRow e d x with
      | error err =>
        have hconvert : ∀ out, (⟨e, [x]⟩ : Series).convertRows d ≠ .ok out := fun out hout ↦ by
          rw [convertRows_eq_ok (List.cons_ne_nil _ _), mapM_singleton_eq_ok, hx] at hout
          obtain ⟨_, hy, -⟩ := hout
          cases hy
        refine ⟨fun ht ↦ ?_, fun ⟨out, hout, _⟩ ↦ absurd ?_ hcount⟩
        · obtain ⟨_, ht, -⟩ := Outcome.bind_eq_ok.1 ht
          exact absurd ht (hconvert _)
        · -- a null among the rows would need the value that has no conversion
          refine (nullCount_eq_zero hd).2 fun row hrow ↦ ?_
          obtain ⟨_, -, hy⟩ := Outcome.exists_of_mem hout hrow
          by_contra hnull
          rw [if_pos (Bool.not_eq_false _ ▸ hnull)] at hy
          cases hy
      | ok y =>
        have hconvert : (⟨e, [x]⟩ : Series).convertRows d = .ok [y] :=
          (convertRows_eq_ok (List.cons_ne_nil _ _)).2 (mapM_singleton_eq_ok.2 ⟨y, hx, rfl⟩)
        have hif (row : Option d.Value) : (if row.isNone then .ok y else .ok row) =
            (.ok (if row.isNone then y else row) : Outcome (Option d.Value)) := by
          split <;> rfl
        rw [hconvert, Outcome.ok_bind, rowsFor_singleton, Outcome.ok_bind, length,
          zipWith_replicate_length]
        simp only [hif, mapM_ok]
        exact ok_mk_eq_ok

/-! ### Types of results -/

theorem dtype_math {op : MathOp} {s t : Series} (h : s.math op = .ok t) : t.dtype = s.dtype := by
  obtain ⟨d, rows⟩ := s
  cases d <;> simp only [math] at h <;> first
    | (split at h <;> first | (injection h with h; exact h ▸ rfl) | cases h)
    | cases h

theorem dtype_round {decimals : Nat} {s t : Series} (h : s.round decimals = .ok t) :
    t.dtype = s.dtype := by
  obtain ⟨d, rows⟩ := s
  cases d with
  | integer t =>
    injection h with h
    exact h ▸ rfl
  | float t =>
    simp only [round] at h
    split at h
    · injection h with h
      exact h ▸ rfl
    · cases h
  | _ => cases h

@[simp]
theorem dtype_maskNans (s : Series) : s.maskNans.dtype = s.dtype := by
  obtain ⟨d, rows⟩ := s
  cases d with
  | float t =>
    cases ht : t.hasArithmetic with
    | true => rw [maskNans_float ht]
    | false => rw [maskNans_of_not_hasArithmetic ht]
  | _ => rfl

/-- Functions other than the elementary ones keep the type. -/
theorem dtype_rowKernel {f : UnaryFunction} {k : Series → Outcome Series} {s t : Series}
    (hk : f.rowKernel? d = some k) (h : k s = .ok t) :
    t.dtype = d ∨ (∀ op, f ≠ .math op) ∧ t.dtype = s.dtype := by
  cases f <;> cases hk
  case math op =>
    obtain ⟨_, hcast, h⟩ := Outcome.bind_eq_ok.1 h
    exact .inl ((dtype_math h).trans (cast_dtype hcast))
  case maskNans =>
    injection h with h
    exact .inr ⟨nofun, h ▸ dtype_maskNans s⟩
  case round decimals => exact .inr ⟨nofun, dtype_round h⟩
  case setSorted =>
    injection h with h
    exact .inr ⟨nofun, h ▸ rfl⟩

theorem dtype_fillNull {s fill t : Series} (h : s.fillNull fill = .ok t) : t.dtype = s.dtype := by
  unfold fillNull at h
  split at h
  · injection h with h
    exact h ▸ rfl
  · obtain ⟨_, _, h⟩ := Outcome.bind_eq_ok.1 h
    obtain ⟨_, _, h⟩ := Outcome.bind_eq_ok.1 h
    injection h with h
    exact h ▸ rfl

end Series

end Tabular
