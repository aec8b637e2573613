import Tabular.Proofs.Rows.Conversion
import Tabular.Proofs.Rows.Nulls
import Tabular.Proofs.Types.Literals

/-!
# Nulls filled from a literal

The values that nulls are filled from are converted to the type of the column. A literal is not
evaluated for that: it is cast to the type of the column at once, whatever type its node declares,
and even if there are no nulls. So it need not fill nulls like another expression that has the same
single value (`Expr.FillAlike`): a fraction that is declared as an integer fills with its fraction
(`Expr.not_fillAlike_literal`).

What nulls were filled with can be told from the result, as long as there is a null
(`Series.fillWith_injective`). So nulls are filled alike exactly from what converts to the same row
(`Series.fill_alike_iff`), and the question of which literals fill nulls as their values do
(`Expr.fillAlike_literal_iff`) is one of two conversions, with the declared type between and without
it.
-/

namespace Tabular

/-- An integer that passes through the type `p` is what it would be without, unless it fits in the
type `q` only. -/
theorem FixedInt.ofInt?_eq_bind_iff {p q : IntType} {i : Int} :
    ofInt? q i = (ofInt? p i).bind (fun a ↦ ofInt? q a.toInt) ↔
      (q.min ≤ i ∧ i ≤ q.max → p.min ≤ i ∧ i ≤ p.max) := by
  rw [← isSome_ofInt?, ← isSome_ofInt?]
  cases hp : ofInt? p i with
  | none => cases ofInt? q i <;> simp
  | some a => simp [toInt_ofInt? hp]

namespace Series

variable {s t r : Series} {d e : DataType}

/-- What has the type already is not converted. -/
@[simp]
theorem convert_self (t : Series) : t.convert t.dtype = .ok t := by
  obtain ⟨d, rows⟩ := t
  rw [convert, convertRows_self, Outcome.ok_bind]

/-- A single row is converted to one. -/
theorem convert_singleton_eq_ok {row : Option e.Value} :
    (⟨e, [row]⟩ : Series).convert d = .ok r ↔
      ∃ new, convertRow e d row = .ok new ∧ r = ⟨d, [new]⟩ := by
  simp only [convert, Outcome.bind_eq_ok, convertRows_eq_ok (List.cons_ne_nil row []),
    mapM_singleton_eq_ok]
  constructor
  · rintro ⟨_, ⟨new, hnew, rfl⟩, hr⟩
    injection hr with hr
    exact ⟨new, hnew, hr.symm⟩
  · rintro ⟨new, hnew, rfl⟩
    exact ⟨_, ⟨new, hnew, rfl⟩, rfl⟩

/-- The series with a row in place of each of its nulls. -/
def fillWith (s : Series) (new : Option s.dtype.Value) : Series :=
  ⟨s.dtype, s.rows.map fun row ↦ if row.isNone then new else row⟩

/-- Nulls that are counted are among the rows. -/
theorem none_mem_of_nullCount (h : s.nullCount ≠ 0) : none ∈ s.rows := by
  have hd : s.dtype ≠ .null := fun hd ↦ h (nullCount_of_null hd)
  by_contra hnone
  refine h ((nullCount_eq_zero hd).2 fun row hrow ↦ ?_)
  cases row with
  | none => exact absurd hrow hnone
  | some v => rfl

/-- What nulls were filled with can be told from the result. -/
theorem fillWith_injective (h : s.nullCount ≠ 0) : Function.Injective s.fillWith := by
  intro new new' hfill
  injection hfill with _ hfill
  exact List.map_inj_left.1 hfill none (none_mem_of_nullCount h)

/-- Filling from a single row converts it and puts it in place of every null. -/
theorem fillNull_eq_ok_iff (h : s.nullCount ≠ 0) (ht : t.length = 1) :
    s.fillNull t = .ok r ↔
      ∃ new, t.convert s.dtype = .ok ⟨s.dtype, [new]⟩ ∧ r = s.fillWith new := by
  obtain ⟨e, rows⟩ := t
  obtain ⟨row, rfl⟩ : ∃ row, rows = [row] := List.length_eq_one_iff.1 ht
  have hfill (new : Option s.dtype.Value) :
      (rowsFor [new] s.length >>= fun news ↦ .ok ⟨s.dtype,
        List.zipWith (fun row new ↦ if row.isNone then new else row) s.rows news⟩) =
          (.ok (s.fillWith new) : Outcome Series) := by
    rw [rowsFor_singleton, Outcome.ok_bind, length, zipWith_replicate_length, fillWith]
  rw [fillNull, if_neg h]
  simp only [convert_singleton_eq_ok, Outcome.bind_eq_ok,
    convertRows_eq_ok (List.cons_ne_nil row []), mapM_singleton_eq_ok]
  constructor
  · rintro ⟨_, ⟨new, hnew, rfl⟩, hr⟩
    rw [← Outcome.bind_eq_ok, hfill, Outcome.ok_eq_ok] at hr
    exact ⟨new, ⟨new, hnew, rfl⟩, hr⟩
  · rintro ⟨_, ⟨new, hnew, hrow⟩, rfl⟩
    injection hrow with _ hrow
    injection hrow with hrow
    subst hrow
    refine ⟨_, ⟨_, hnew, rfl⟩, ?_⟩
    rw [← Outcome.bind_eq_ok, hfill]

/-- A row that is converted is one row. -/
theorem exists_row_of_convert (ht : t.length = 1) (h : t.convert d = .ok r) :
    ∃ new, r = ⟨d, [new]⟩ := by
  obtain ⟨e, rows⟩ := t
  obtain ⟨row, rfl⟩ : ∃ row, rows = [row] := List.length_eq_one_iff.1 ht
  obtain ⟨new, -, hr⟩ := convert_singleton_eq_ok.1 h
  exact ⟨new, hr⟩

section Outcomes

variable {o o' : Outcome Series}

/-- And so where the single row is itself an outcome. -/
theorem bind_fillNull_eq_ok_iff (h : s.nullCount ≠ 0) (ho : ∀ t, o = .ok t → t.length = 1) :
    o >>= s.fillNull = .ok r ↔
      ∃ new, o >>= (convert · s.dtype) = .ok ⟨s.dtype, [new]⟩ ∧ r = s.fillWith new := by
  cases o with
  | error e => exact ⟨nofun, fun ⟨_, hnew, _⟩ ↦ nomatch hnew⟩
  | ok t => exact fillNull_eq_ok_iff h (ho t rfl)

/-- What fills nulls as another row does is converted to what that row is. -/
theorem convert_of_fill (h : s.nullCount ≠ 0) (ho : ∀ t, o = .ok t → t.length = 1)
    (ho' : ∀ t, o' = .ok t → t.length = 1)
    (hfill : ∀ r, o >>= s.fillNull = .ok r → o' >>= s.fillNull = .ok r)
    (hr : o >>= (convert · s.dtype) = .ok r) : o' >>= (convert · s.dtype) = .ok r := by
  obtain ⟨t, ht, hconvert⟩ := Outcome.bind_eq_ok.1 hr
  obtain ⟨new, rfl⟩ := exists_row_of_convert (ho t ht) hconvert
  have hfilled := hfill _ ((bind_fillNull_eq_ok_iff h ho).2 ⟨new, hr, rfl⟩)
  obtain ⟨new', hnew', hsame⟩ := (bind_fillNull_eq_ok_iff h ho').1 hfilled
  rwa [fillWith_injective h hsame]

/-- **Nulls are filled alike from single rows** exactly if these are converted to the same row, or
none of them is. -/
theorem fill_alike_iff (h : s.nullCount ≠ 0) (ho : ∀ t, o = .ok t → t.length = 1)
    (ho' : ∀ t, o' = .ok t → t.length = 1) :
    (∀ r, o >>= s.fillNull = .ok r ↔ o' >>= s.fillNull = .ok r) ↔
      ∀ r, o >>= (convert · s.dtype) = .ok r ↔ o' >>= (convert · s.dtype) = .ok r := by
  constructor
  · intro hfill r
    exact ⟨convert_of_fill h ho ho' fun r ↦ (hfill r).1,
      convert_of_fill h ho' ho fun r ↦ (hfill r).2⟩
  · intro hconvert r
    simp only [bind_fillNull_eq_ok_iff h ho, bind_fillNull_eq_ok_iff h ho', hconvert]

end Outcomes

/-- An integer is the same with and without a declared type if it fits in that type, or in
neither. -/
theorem convert_integer_alike_iff {v : Literal} {i : Int} {p q : IntType} (hi : v.integer? = some i)
    (ht : v.toSeries (.integer p) = .ok t) :
    (∀ r, v.toSeries (.integer q) = .ok r ↔ t.convert (.integer q) = .ok r) ↔
      (q.min ≤ i ∧ i ≤ q.max → p.min ≤ i ∧ i ≤ p.max) := by
  rw [Literal.toSeries_integer hi] at ht
  injection ht with ht
  subst ht
  have hconvert : (⟨.integer p, [FixedInt.ofInt? p i]⟩ : Series).convert (.integer q) =
      .ok ⟨.integer q, [(FixedInt.ofInt? p i).bind fun a ↦ FixedInt.ofInt? q a.toInt]⟩ :=
    convert_singleton_eq_ok.2 ⟨_, convertRow_integer p q _, rfl⟩
  rw [Literal.toSeries_integer hi, hconvert, ← FixedInt.ofInt?_eq_bind_iff]
  constructor
  · intro hsame
    simpa using ((hsame _).1 rfl).symm
  · intro hsame r
    rw [← hsame]

/-- A literal fills nulls as a row of it does if it takes the type of the column as that row does,
and without nulls if it takes that type at all. -/
theorem fill_literal_alike_iff {v : Literal} (ht : t.length = 1) :
    (∀ r, v.toSeries s.dtype >>= s.fillNull = .ok r ↔ s.fillNull t = .ok r) ↔
      (s.nullCount = 0 → v.castsTo s.dtype = true) ∧
        (s.nullCount ≠ 0 → ∀ r, v.toSeries s.dtype = .ok r ↔ t.convert s.dtype = .ok r) := by
  by_cases h : s.nullCount = 0
  -- Without nulls nothing is filled in, but the literal is converted all the same.
  · have hfill : s.fillNull = fun _ ↦ .ok s := funext fun _ ↦ if_pos h
    simp only [h, hfill, ← Literal.exists_toSeries_iff, ne_eq, not_true_eq_false, false_imp_iff,
      true_imp_iff, and_true]
    constructor
    · intro halike
      obtain ⟨u, hu, -⟩ := Outcome.bind_eq_ok.1 ((halike s).2 rfl)
      exact ⟨u, hu⟩
    · rintro ⟨u, hu⟩ r
      rw [hu, Outcome.ok_bind]
  -- The literal has the type of the column by the time it is filled in, where it is not changed
  -- again.
  · have hself : v.toSeries s.dtype >>= (convert · s.dtype) = v.toSeries s.dtype := by
      cases hv : v.toSeries s.dtype with
      | error e => rfl
      | ok u =>
        have hu := convert_self u
        rwa [Literal.dtype_toSeries hv] at hu
    have hv (u : Series) (hu : v.toSeries s.dtype = .ok u) : u.length = 1 :=
      Literal.length_toSeries hu
    have ht' (u : Series) (hu : (.ok t : Outcome Series) = .ok u) : u.length = 1 := by
      injection hu with hu
      exact hu ▸ ht
    have halike := fill_alike_iff h hv ht'
    rw [hself] at halike
    simp only [Outcome.ok_bind] at halike
    simp only [h, false_imp_iff, true_and, ne_eq, not_false_eq_true, true_imp_iff, halike]

end Series

namespace Expr

variable {fr : Frame} {context : Context} {known : Mapping} {d e : DataType} {x m : Expr}
  {v : Literal} {s t : Series}

/-- Nulls of an expression are filled from two others with the same outcome, or from neither. -/
def FillAlike (fr : Frame) (context : Context) (known : Mapping) (d : DataType)
    (x m m' : Expr) : Prop :=
  ∀ r, (x.fillNull d m).values fr context known = .ok r ↔
    (x.fillNull d m').values fr context known = .ok r

/-- What filling from the two does to the rows of the column. -/
theorem fillAlike_iff_fillNull
    (hliteral : known.find? (x.fillNull d (node e (.literal v) [])) = none)
    (hexpr : known.find? (x.fillNull d m) = none) (hx : x.values fr context known = .ok s)
    (hm : m.literal? = none) (hmt : m.values fr context known = .ok t) :
    FillAlike fr context known d x (node e (.literal v) []) m ↔
      ∀ r, v.toSeries s.dtype >>= s.fillNull = .ok r ↔ s.fillNull t = .ok r := by
  have hfiller : m.fillerValues fr context known s.dtype = .ok t := by
    rw [fillerValues, hm, hmt]
  rw [FillAlike, fillNull, fillNull, values_fillNull hliteral, values_fillNull hexpr, hx]
  simp only [Outcome.ok_bind, hfiller]
  rfl

/-- **A literal fills nulls as another expression of its value does** if it takes the type of the
column as that value does; without nulls it has to take it all the same. It does if its node
declares that type. An integer that the column can hold has to fit in the declared type too. -/
theorem fillAlike_literal_iff
    (hliteral : known.find? (x.fillNull d (node e (.literal v) [])) = none)
    (hexpr : known.find? (x.fillNull d m) = none)
    (hfind : known.find? (node e (.literal v) []) = none)
    (hx : x.values fr context known = .ok s)
    (hv : (node e (.literal v) []).values fr context known = .ok t)
    (hm : m.literal? = none) (hmt : m.values fr context known = .ok t) :
    (FillAlike fr context known d x (node e (.literal v) []) m ↔
      (s.nullCount = 0 → v.castsTo s.dtype = true) ∧
        (s.nullCount ≠ 0 → ∀ r, v.toSeries s.dtype = .ok r ↔ t.convert s.dtype = .ok r)) ∧
    (e = s.dtype → FillAlike fr context known d x (node e (.literal v) []) m) ∧
    (∀ i p q, v.integer? = some i → e = .integer p → s.dtype = .integer q →
      (FillAlike fr context known d x (node e (.literal v) []) m ↔
        (s.nullCount ≠ 0 → q.min ≤ i ∧ i ≤ q.max → p.min ≤ i ∧ i ≤ p.max))) := by
  rw [values_literal hfind] at hv
  have halike : FillAlike fr context known d x (node e (.literal v) []) m ↔
      (s.nullCount = 0 → v.castsTo s.dtype = true) ∧
        (s.nullCount ≠ 0 → ∀ r, v.toSeries s.dtype = .ok r ↔ t.convert s.dtype = .ok r) := by
    rw [fillAlike_iff_fillNull hliteral hexpr hx hm hmt]
    exact Series.fill_literal_alike_iff (Literal.length_toSeries hv)
  refine ⟨halike, fun he ↦ ?_, fun i p q hi hp hq ↦ ?_⟩
  · subst he
    have hself := Series.convert_self t
    rw [Literal.dtype_toSeries hv] at hself
    refine halike.2 ⟨fun _ ↦ Literal.exists_toSeries_iff.1 ⟨t, hv⟩, fun _ r ↦ ?_⟩
    rw [hv, hself]
  · subst hp
    rw [halike, hq, Series.convert_integer_alike_iff hi hv]
    simp only [Literal.castsTo_integer, implies_true, true_and]

/-- The least number of eight bits, which its declared type holds. -/
def leastNumber : Expr :=
  node (.integer .int8) (.literal (.int (FixedInt.wrap _ (-128)))) []

/-- The least number of its type fills as its value does. -/
theorem fillAlike_literal_readings :
    FillAlike readingsFrame .frame .empty .int64 readingColumn leastNumber
      (node (.integer .int8) .cast [leastNumber]) := by
  obtain ⟨-, -, hinteger⟩ := @fillAlike_literal_iff readingsFrame .frame .empty .int64
    (.integer .int8) readingColumn (node (.integer .int8) .cast [leastNumber])
    (.int (FixedInt.wrap _ (-128))) _ _ rfl rfl rfl rfl rfl rfl rfl
  exact (hinteger (-128) .int8 .int64 rfl rfl rfl).2 fun _ _ ↦ ⟨by decide, by decide⟩

/-- A frame of one weight and of one that is missing. -/
def weightsFrame : Frame :=
  ⟨[⟨"weight", { series := ⟨.float64, [some (Binary.ofInt 1), none]⟩ }⟩], rfl⟩

/-- The column of the weights. -/
def weightColumn : Expr := node .float64 (.col "weight") []

/-- Two and a half, declared as an integer. -/
def truncated : Expr := node .int64 (.literal (.float (Binary.ofRatio false 5 2))) []

/-- A literal fills with its fraction although its value has none. -/
theorem not_fillAlike_literal :
    ¬∀ (fr : Frame) (d e : DataType) (x m : Expr) (v : Literal) (t : Series),
      (x.fillNull d (node e (.literal v) [])).WellFormed → (x.fillNull d m).WellFormed →
        fr.Declares (x.fillNull d m) → m.literal? = none →
          (node e (.literal v) []).values fr .frame .empty = .ok t →
            m.values fr .frame .empty = .ok t →
              FillAlike fr .frame .empty d x (node e (.literal v) []) m := by
  intro h
  have halike := h weightsFrame .float64 .int64 weightColumn (node .int64 .cast [truncated])
    (.float (Binary.ofRatio false 5 2)) _ (by decide) (by decide) (by decide) rfl rfl rfl
  have hfilled : (.ok ⟨.float64, [some (Binary.ofInt 1), some (Binary.ofInt 2)]⟩ : Outcome Series) =
      .ok ⟨.float64, [some (Binary.ofInt 1), some (Binary.ofRatio false 5 2)]⟩ :=
    (halike _).1 rfl
  simp only [Except.ok.injEq, Series.mk.injEq, heq_eq_eq, true_and] at hfilled
  exact absurd hfilled (by decide)

end Expr

end Tabular
