import Tabular.Proofs.Rows.Operators

/-!
# Conversions of rows

Which conversions cannot fail, and which of them keep every value. Both are said of single rows;
what follows for series is that their rows are converted one by one (`Series.convertRows_eq_map`).

Numbers can be converted to numbers, though some to nulls (`Series.convertsAllRows_of_isNumeric`).
What the table has an entry for fails for dates and times outside the calendar, and for zones that
cannot be read (`Series.failsWith_convertRows`).

The operands of a comparison are converted to one type. It does not depend on which operand is the
left one (`Series.comparedAs_comm`), and no value of either becomes a null in it
(`Series.exists_convertsBy`): this is why a null in a comparison is one of an operand.
-/

namespace Tabular

/-- The type `t` holds every integer of the type `s`. -/
def IntType.Holds (t s : IntType) : Prop := t.min ≤ s.min ∧ s.max ≤ t.max

/-- One of the types is that of unsigned integers of 64 bits, and the other one is signed: there is
no type that holds both. -/
def IntType.Mixed (s t : IntType) : Prop :=
  s = .uint64 ∧ t.signed = true ∨ s.signed = true ∧ t = .uint64

instance (s t : IntType) : Decidable (s.Mixed t) :=
  inferInstanceAs (Decidable (_ ∨ _))

/-- An integer in a type that holds it. -/
def FixedInt.widen {s t : IntType} (h : t.Holds s) (a : FixedInt s) : FixedInt t :=
  ⟨a.toInt, Int.le_trans h.1 a.min_le, Int.le_trans a.le_max h.2⟩

namespace Series

variable {d e : DataType}

/-! ### Conversions that cannot fail -/

/-- Rows of type `d` can be converted to type `e`, whatever they are. -/
def ConvertsAllRows (d e : DataType) : Prop :=
  ∀ row, ∃ row', convertRow d e row = .ok row'

/-- Conversions that cannot fail work on each row alone. -/
theorem convertRows_eq_map {f : Option d.Value → Option e.Value}
    (hf : ∀ row, convertRow d e row = .ok (f row)) (rows : List (Option d.Value)) :
    (⟨d, rows⟩ : Series).convertRows e = .ok (rows.map f) := by
  by_cases hrows : rows = []
  · subst hrows
    -- the table of conversions is looked up even if there is nothing to convert
    by_cases hde : d = e
    · subst hde
      exact convertRows_self []
    · by_cases hnull : d = .null
      · simp only [convertRows, dif_neg hde, if_pos hnull]
        rfl
      · have hnone := hf none
        simp only [convertRow, dif_neg hde, if_neg hnull] at hnone
        cases hconv : Conversion.between d e with
        | error fault => rw [hconv] at hnone; cases hnone
        | ok f =>
          simp only [convertRows, dif_neg hde, if_neg hnull, hconv]
          rfl
  · rw [convertRows_eq_ok hrows, funext hf, mapM_ok]

/-- Conversions that cannot fail are maps of rows. -/
theorem ConvertsAllRows.exists_eq_map (h : ConvertsAllRows d e) :
    ∃ f : Option d.Value → Option e.Value,
      ∀ rows, (⟨d, rows⟩ : Series).convertRows e = .ok (rows.map f) := by
  choose f hf using h
  exact ⟨f, convertRows_eq_map hf⟩

/-- They keep the number of rows. -/
theorem exists_convertRows {s : Series} (h : ConvertsAllRows s.dtype e) :
    ∃ rows, s.convertRows e = .ok rows ∧ rows.length = s.length := by
  obtain ⟨f, hf⟩ := h.exists_eq_map
  exact ⟨_, hf s.rows, List.length_map f⟩

/-- What is not converted does not fail. -/
theorem convertsAllRows_self (d : DataType) : ConvertsAllRows d d :=
  fun row ↦ ⟨row, dif_pos rfl⟩

/-- Entries of the table of conversions that cannot fail. -/
theorem ConvertsAllRows.of_conversion {f : Conversion d e} (hf : Conversion.between d e = .ok f)
    (h : ∀ row, ∃ row', f row = .ok row') : ConvertsAllRows d e := by
  intro row
  by_cases hde : d = e
  · subst hde
    exact convertsAllRows_self d row
  · by_cases hnull : d = .null
    · exact ⟨none, by simp only [convertRow, dif_neg hde, if_pos hnull]⟩
    · simp only [convertRow, dif_neg hde, if_neg hnull, hf]
      exact h row

/-- An entry that gives a value or a null for every value does not fail. -/
theorem ConvertsAllRows.of_total {g : d.Value → Option e.Value}
    (hg : Conversion.between d e = .ok (Conversion.total g)) : ConvertsAllRows d e :=
  .of_conversion hg fun _ ↦ ⟨_, rfl⟩

/-- Numbers that do not fit become null. -/
theorem convertsAllRows_of_isNumeric (hd : d.isNumeric = true) (he : e.isNumeric = true) :
    ConvertsAllRows d e := by
  cases e with
  | integer t | float t => cases d with
    | integer _ | float _ => exact .of_total rfl
    | _ => cases hd
  | _ => cases he

/-- Truth values and integers are taken for truth values. -/
theorem convertsAllRows_boolean (hd : d = .boolean ∨ d.isInteger = true) :
    ConvertsAllRows d .boolean := by
  cases d with
  | boolean => exact convertsAllRows_self _
  | integer _ => exact .of_total rfl
  | _ => rcases hd with hd | hd <;> cases hd

/-! ### Conversions that can fail -/

/-- What a conversion of the table fails with: a date or a time outside the calendar. -/
def BeyondCalendar (e : Error) : Prop := e = .kernel .dateOutOfRange

/-- Nulls are converted without looking at them. -/
theorem failsWith_onValues {α β : Type} {f : α → Outcome (Option β)} {p : Error → Prop}
    (hf : ∀ v, Outcome.FailsWith p (f v)) (row : Option α) :
    Outcome.FailsWith p (Conversion.onValues f row) := by
  cases row with
  | none => exact .ok _
  | some v => exact hf v

/-- A day may be outside the calendar. -/
theorem failsWith_toDays {s : DataType} {g : s.Value → Outcome (Option (FixedInt .int32))}
    (h : Conversion.toDays? s = some g) (v : s.Value) :
    Outcome.FailsWith BeyondCalendar (g v) := by
  unfold Conversion.toDays? at h
  split at h <;> cases h
  all_goals first | exact .ok _ | dsimp only
  split
  · exact .ok _
  · exact .error rfl

/-- A time that is written may be outside the calendar. -/
theorem failsWith_toText {s : DataType} {g : s.Value → Outcome (Option String)}
    (h : Conversion.toText? s = some g) (v : s.Value) :
    Outcome.FailsWith BeyondCalendar (g v) := by
  unfold Conversion.toText? at h
  split at h <;> cases h
  dsimp only
  split
  · exact .ok _
  · exact .error rfl

/-- A conversion of a row fails for dates and times only, into lists because one of their items
does. -/
theorem failsWith_conversion {s d : DataType} {f : Conversion s d} (h : conversion? s d = some f)
    (row : Option s.Value) : Outcome.FailsWith BeyondCalendar (f row) := by
  -- Most conversions cannot fail: the table lists them as total functions.
  have htotal {α β : Type} {o : Option (α → Option β)} {f : Option α → Outcome (Option β)}
      (h : o.map Conversion.total = some f) (row : Option α) :
      Outcome.FailsWith BeyondCalendar (f row) := by
    obtain ⟨g, -, rfl⟩ := Option.map_eq_some_iff.1 h
    exact .ok _
  induction d generalizing s with
  | null => cases h
  | boolean | integer _ | float _ | date64 | timestamp _ _ | duration _ => exact htotal h row
  | date32 =>
    obtain ⟨g, hg, rfl⟩ := Option.map_eq_some_iff.1 h
    exact failsWith_onValues (failsWith_toDays hg) row
  | text _ =>
    obtain ⟨g, hg, rfl⟩ := Option.map_eq_some_iff.1 h
    exact failsWith_onValues (failsWith_toText hg) row
  | list item ih =>
    -- An item may need a conversion in turn, which is where the induction is used.
    have hitems {s : DataType} {g : Conversion s item}
        (hg : Conversion.ofItems? s item (conversion? s item) = some g) (row : Option s.Value) :
        Outcome.FailsWith BeyondCalendar (g row) := by
      unfold Conversion.ofItems? at hg
      split at hg
      · cases hg
        exact .ok _
      · split at hg
        · cases hg
          exact .ok _
        · exact ih hg row
    simp only [conversion?] at h
    split at h
    · obtain ⟨g, hg, rfl⟩ := Option.map_eq_some_iff.1 h
      exact failsWith_onValues
        (fun _ ↦ (Outcome.FailsWith.mapM (hitems hg)).bind fun _ _ ↦ .ok _) row
    · obtain ⟨g, hg, rfl⟩ := Option.map_eq_some_iff.1 h
      exact (hitems hg row).bind fun _ _ ↦ .ok _

section Keeping

variable {s t : IntType}

/-- Integers are converted one by one; those that do not fit become null. -/
theorem convertRow_integer (t u : IntType) (row : Option (FixedInt t)) :
    convertRow (.integer t) (.integer u) row =
      .ok (row.bind fun i ↦ FixedInt.ofInt? u i.toInt) := by
  by_cases htu : t = u
  · subst htu
    have hself : (row.bind fun i ↦ FixedInt.ofInt? t i.toInt) = row := by
      cases row with
      | none => rfl
      | some i => exact FixedInt.ofInt?_toInt i
    rw [hself]
    exact dif_pos rfl
  · have hne : DataType.integer t ≠ .integer u := fun h ↦ htu (by injection h)
    rw [convertRow, dif_neg hne]
    rfl

/-- The conversion of rows from type `d` to type `e` keeps nulls, and makes of every value the value
that `f` says. -/
def ConvertsBy (d e : DataType) (f : d.Value → e.Value) : Prop :=
  ∀ row, convertRow d e row = .ok (row.map f)

/-- Conversions that keep values do not fail. -/
theorem ConvertsBy.convertsAllRows {f : d.Value → e.Value} (h : ConvertsBy d e f) :
    ConvertsAllRows d e :=
  fun row ↦ ⟨_, h row⟩

/-- What is not converted keeps its values. -/
theorem convertsBy_self (d : DataType) : ConvertsBy d d id := by
  intro row
  rw [Option.map_id]
  exact dif_pos rfl

/-- Integers keep their values in a type that holds them. -/
theorem convertsBy_widen (h : t.Holds s) :
    ConvertsBy (.integer s) (.integer t) (FixedInt.widen h) := by
  intro row
  rw [convertRow_integer]
  cases row with
  | none => rfl
  | some a => exact congrArg Except.ok (FixedInt.ofInt?_toInt (a.widen h))

/-- Integers as floating-point numbers have the nearest number for their value, and none becomes
null. -/
theorem convertsBy_ofInt (s : IntType) (p : FloatType) :
    ConvertsBy (.integer s) (.float p) fun a ↦ Binary.stored p a.toInt
  | none => rfl
  | some _ => rfl

/-- Text keeps its value in every layout. -/
theorem convertsBy_text (p q : TextType) : ConvertsBy (.text p) (.text q) id := by
  intro row
  by_cases hpq : p = q
  · subst hpq
    exact convertsBy_self _ row
  · have hne : DataType.text p ≠ .text q := fun h ↦ hpq (by injection h)
    rw [convertRow, dif_neg hne]
    cases row <;> rfl

/-- Numbers become floating-point numbers. -/
theorem exists_convertsBy_float64 (h : d.isNumeric = true) : ∃ f, ConvertsBy d .float64 f := by
  cases d with
  | integer s => exact ⟨_, convertsBy_ofInt s .double⟩
  | float p =>
    cases p with
    | half => cases h
    | single =>
      refine ⟨Binary.convert .double, fun row ↦ ?_⟩
      cases row <;> rfl
    | double => exact ⟨id, convertsBy_self _⟩
  | _ => cases h

/-! ### The common type -/

/-- Integers are compared in a type that holds both of them if there is one, and otherwise as
floating-point numbers. -/
theorem comparedAs_integers (s t : IntType) :
    (¬s.Mixed t → ∃ u : IntType,
      comparedAs (.integer s) (.integer t) = .integer u ∧ u.Holds s ∧ u.Holds t) ∧
    (s.Mixed t → comparedAs (.integer s) (.integer t) = .float64) := by
  cases s <;> cases t <;> first
    | exact ⟨fun _ ↦ ⟨_, rfl, ⟨by decide, by decide⟩, ⟨by decide, by decide⟩⟩,
        fun h ↦ absurd h (by decide)⟩
    | exact ⟨fun h ↦ absurd (by decide) h, fun _ ↦ rfl⟩

/-- Numbers of which one is a floating-point number are compared as those. -/
theorem common?_of_isFloating (hd : d.isNumeric = true) (he : e.isNumeric = true)
    (h : d.isFloating = true ∨ e.isFloating = true) : d.common? e = some .float64 := by
  cases d with
  | integer s => cases e with
    | integer t => rcases h with h | h <;> cases h
    | float q => exact if_pos he
    | _ => cases he
  | float p => cases e with
    | integer t => exact if_pos hd
    | float q => exact if_pos (Bool.and_eq_true_iff.2 ⟨hd, he⟩)
    | _ => cases he
  | _ => cases hd

/-- The common type does not depend on which operand is the left one. -/
theorem comparedAs_comm (h : d = e ∨ d.isNumeric ∧ e.isNumeric ∨ d.isText ∧ e.isText) :
    comparedAs d e = comparedAs e d := by
  by_cases hde : d = e
  · rw [hde]
  rcases h with h | ⟨hd, he⟩ | ⟨hd, he⟩
  · exact absurd h hde
  · by_cases hfloating : d.isFloating = true ∨ e.isFloating = true
    · rw [comparedAs, comparedAs, if_neg hde, if_neg (Ne.symm hde),
        common?_of_isFloating hd he hfloating, common?_of_isFloating he hd hfloating.symm]
      rfl
    · cases d with
      | integer s => cases e with
        | integer t => cases s <;> cases t <;> rfl
        | float q => exact absurd (.inr rfl) hfloating
        | _ => cases he
      | float p => exact absurd (.inl rfl) hfloating
      | _ => cases hd
  · cases d with
    | text p => cases e with
      | text q => cases p <;> cases q <;> rfl
      | _ => cases he
    | _ => cases hd

/-- The left operand of a comparison keeps its values and nulls in the common type. -/
theorem exists_convertsBy_left (h : d = e ∨ d.isNumeric ∧ e.isNumeric ∨ d.isText ∧ e.isText) :
    ∃ f, ConvertsBy d (comparedAs d e) f := by
  by_cases hde : d = e
  · rw [comparedAs, if_pos hde]
    exact ⟨id, convertsBy_self d⟩
  have hcommon : comparedAs d e = (d.common? e).getD d := if_neg hde
  rcases h with h | ⟨hd, he⟩ | ⟨hd, he⟩
  · exact absurd h hde
  · cases d with
    | integer s => cases e with
      | integer t =>
        -- Integers meet in a wider integer type if there is one, and in floats otherwise.
        by_cases hmixed : s.Mixed t
        · rw [(comparedAs_integers s t).2 hmixed]
          exact exists_convertsBy_float64 hd
        · obtain ⟨u, hu, hs, -⟩ := (comparedAs_integers s t).1 hmixed
          rw [hu]
          exact ⟨_, convertsBy_widen hs⟩
      | float q =>
        rw [hcommon, common?_of_isFloating hd he (.inr rfl)]
        exact exists_convertsBy_float64 hd
      | _ => cases he
    | float p =>
      rw [hcommon, common?_of_isFloating hd he (.inl rfl)]
      exact exists_convertsBy_float64 hd
    | _ => cases hd
  · cases d with
    | text p => cases e with
      | text q => rw [hcommon]; exact ⟨id, convertsBy_text p .utf8⟩
      | _ => cases he
    | _ => cases hd

/-- Both operands of a comparison keep their values and their nulls in the common type. -/
theorem exists_convertsBy (h : d = e ∨ d.isNumeric ∧ e.isNumeric ∨ d.isText ∧ e.isText) :
    (∃ f, ConvertsBy d (comparedAs d e) f) ∧ ∃ g, ConvertsBy e (comparedAs d e) g := by
  refine ⟨exists_convertsBy_left h, ?_⟩
  rw [comparedAs_comm h]
  exact exists_convertsBy_left (h.imp Eq.symm (Or.imp And.symm And.symm))

/-- The type in which supported operands are compared is one that both can be converted to. -/
theorem convertsAllRows_comparedAs
    (h : d = e ∨ d.isNumeric ∧ e.isNumeric ∨ d.isText ∧ e.isText) :
    ConvertsAllRows d (comparedAs d e) ∧ ConvertsAllRows e (comparedAs d e) := by
  obtain ⟨⟨f, hf⟩, g, hg⟩ := exists_convertsBy h
  exact ⟨hf.convertsAllRows, hg.convertsAllRows⟩

/-- The common type is one of lists only if the left operand has lists. -/
theorem isList_comparedAs (hd : d.isList = false) : (comparedAs d e).isList = false := by
  unfold comparedAs
  split
  · exact hd
  · cases d with
    | integer a => cases e with
      | integer b | float b => simp only [DataType.common?, Option.getD]; split_ifs <;> rfl
      | _ => rfl
    | float a => cases e with
      | integer b | float b => simp only [DataType.common?]; split_ifs <;> rfl
      | _ => rfl
    | text a => cases e <;> rfl
    | list a => cases hd
    | _ => rfl

end Keeping

end Series

end Tabular
