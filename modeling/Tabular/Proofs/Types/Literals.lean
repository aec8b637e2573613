import Tabular.Proofs.Rows.Kernels

/-!
# Literals in their declared types

A literal is cast to the type that its node declares, when the node is built and wherever it is
evaluated. Building it is refused for types that the literal does not cast to (`Literal.castsTo`). A
cast turns what its target cannot hold into a null, though, and does not fail: a literal that casts
to a type without a value there (`Literal.Fits`) is accepted as a null.
`Literal.toSeries_of_castsTo` says this of every literal and every type.

`Literal.KeepsItsValue` is what has to become of a literal that is not null: it is refused, or it
has a row with its value. This is so unless it is one of those that are accepted as a null
(`Expr.literal_keepsItsValue_iff`), such as a number beyond the range of its type
(`Expr.not_literal_keepsItsValue`).
-/

namespace Tabular

namespace Literal

variable {v : Literal} {d : DataType} {t : IntType}

/-- The number that a literal of an integer stands for. -/
def integer? : Literal → Option Int
  | int i => some i.toInt
  | uint i => some i.toInt
  | _ => none

/-- The types that a literal casts to: text to text and numbers, truth values to truth values and
numbers, and numbers to all of these. -/
def castsTo (v : Literal) (d : DataType) : Bool :=
  match v with
  | null => true
  | boolean _ => d.isNumeric || d = .boolean
  | text _ => d.isNumeric || d.isText
  | _ => d.isNumeric || d.isText || d = .boolean

/-- The type has a value for the literal: an integer within its range, once a fraction is cut off,
and what is read from a text. Any other type that a literal casts to has a value for it. -/
def Fits (v : Literal) (d : DataType) : Prop :=
  match v, d with
  | int i, .integer t => t.min ≤ i.toInt ∧ i.toInt ≤ t.max
  | uint i, .integer t => t.min ≤ i.toInt ∧ i.toInt ≤ t.max
  | float x, .integer t => ∃ i, x.truncate? = some i ∧ t.min ≤ i ∧ i ≤ t.max
  | text s, .integer t => (FixedInt.read? t s).isSome = true
  | text s, .float t => (Binary.read? t s).isSome = true
  | _, _ => True

/-- Every literal casts to integers. -/
@[simp]
theorem castsTo_integer (v : Literal) (t : IntType) : v.castsTo (.integer t) = true := by
  cases v <;> rfl

/-- An integer fits what has it in its range. -/
theorem fits_integer_iff {i : Int} (hv : v.integer? = some i) :
    v.Fits (.integer t) ↔ t.min ≤ i ∧ i ≤ t.max := by
  cases v <;> cases hv <;> exact Iff.rfl

/-- An integer is itself in every type that has it in its range. -/
theorem toSeries_integer {i : Int} (hv : v.integer? = some i) (t : IntType) :
    v.toSeries (.integer t) = .ok ⟨.integer t, [FixedInt.ofInt? t i]⟩ := by
  cases v with
  | int j =>
    obtain rfl : j.toInt = i := by simpa [integer?] using hv
    cases t with
    | int64 => rw [FixedInt.ofInt?_toInt]; rfl
    | _ => rfl
  | uint j =>
    obtain rfl : j.toInt = i := by simpa [integer?] using hv
    cases t with
    | uint64 => rw [FixedInt.ofInt?_toInt]; rfl
    | _ => rfl
  | _ => cases hv

/-- **The row of a literal** in a type that it casts to is null where the type has no value for
it. -/
theorem toSeries_of_castsTo (hv : v.isNull = false) (h : v.castsTo d = true) :
    ∃ row, v.toSeries d = .ok ⟨d, [row]⟩ ∧ (row.isSome = true ↔ v.Fits d) := by
  cases v with
  | null => cases hv
  | boolean b =>
    cases d with
    | boolean => exact ⟨some b, rfl, iff_of_true rfl trivial⟩
    -- Every integer type has room for 0 and 1.
    | integer t =>
      have hfits : t.min ≤ (if b then 1 else 0) ∧ (if b then 1 else 0) ≤ t.max := by
        have := t.min_le_zero
        have := t.one_le_max
        split <;> omega
      exact ⟨_, rfl, iff_of_true (FixedInt.isSome_ofInt?.2 hfits) trivial⟩
    | float t =>
      cases t with
      | half => cases h
      | single | double => exact ⟨some _, rfl, iff_of_true rfl trivial⟩
    | _ => cases h
  | int i =>
    cases d with
    | integer t => exact ⟨_, toSeries_integer rfl t, FixedInt.isSome_ofInt?⟩
    | float t =>
      cases t with
      | half => cases h
      | single | double => exact ⟨some _, rfl, iff_of_true rfl trivial⟩
    | text _ | boolean => exact ⟨some _, rfl, iff_of_true rfl trivial⟩
    | _ => cases h
  | uint i =>
    cases d with
    | integer t => exact ⟨_, toSeries_integer rfl t, FixedInt.isSome_ofInt?⟩
    | float t =>
      cases t with
      | half => cases h
      | single | double => exact ⟨some _, rfl, iff_of_true rfl trivial⟩
    | text _ | boolean => exact ⟨some _, rfl, iff_of_true rfl trivial⟩
    | _ => cases h
  | float x =>
    cases d with
    -- Only the integer part of a float has to fit.
    | integer t =>
      refine ⟨x.truncate?.bind (FixedInt.ofInt? t), rfl, ?_⟩
      simp only [Option.isSome_bind, Option.any_eq_true, FixedInt.isSome_ofInt?, Fits]
    | float t =>
      cases t with
      | half => cases h
      | single | double => exact ⟨some _, rfl, iff_of_true rfl trivial⟩
    | text _ | boolean => exact ⟨some _, rfl, iff_of_true rfl trivial⟩
    | _ => cases h
  | text s =>
    cases d with
    | integer _ => exact ⟨_, rfl, Iff.rfl⟩
    | float t =>
      cases t with
      | half => cases h
      | single | double => exact ⟨_, rfl, Iff.rfl⟩
    | text t => cases t <;> exact ⟨some _, rfl, iff_of_true rfl trivial⟩
    | _ => cases h

/-- Only types that a literal casts to can be declared. -/
theorem toSeries_of_not_castsTo (h : v.castsTo d = false) :
    v.toSeries d = invalid (.literal v.printed d) := by
  cases d with
  | float t => cases t <;> cases v <;> first | rfl | cases h
  | _ => cases v <;> first | rfl | cases h

/-- A literal has a row in the types that it casts to, and in no others. -/
theorem exists_toSeries_iff : (∃ s, v.toSeries d = .ok s) ↔ v.castsTo d = true := by
  constructor
  · rintro ⟨s, hs⟩
    by_contra hcasts
    rw [toSeries_of_not_castsTo (Bool.eq_false_iff.2 hcasts)] at hs
    cases hs
  · intro hcasts
    cases hv : v.isNull with
    | true =>
      obtain rfl : v = null := by cases v <;> first | rfl | cases hv
      exact ⟨_, rfl⟩
    | false =>
      obtain ⟨row, hrow, -⟩ := toSeries_of_castsTo hv hcasts
      exact ⟨_, hrow⟩

end Literal

namespace Expr

variable {v : Literal} {d : DataType}

/-- A literal is built if it has a row. -/
theorem build_literal (v : Literal) (d : DataType) :
    build d (.literal v) [] = v.toSeries d >>= fun _ ↦ .ok (node d (.literal v) []) := by
  show (v.toSeries d >>= fun _ ↦ .ok ()) >>= (fun _ ↦ .ok (node d (.literal v) [])) = _
  cases v.toSeries d <;> rfl

end Expr

/-- What has to become of a literal when it is declared with the type `d`: it is refused if the type
has no value for it, and what is accepted has a single value in every frame, an integer itself. -/
structure Literal.KeepsItsValue (v : Literal) (d : DataType) : Prop where
  value : ∀ e, Expr.build d (.literal v) [] = .ok e → ∀ fr context m, m.find? e = none →
    ∃ x : d.Value, e.values fr context m = .ok ⟨d, [some x]⟩
  integer : ∀ e i t, Expr.build d (.literal v) [] = .ok e → v.integer? = some i → d = .integer t →
    ∀ fr context m, m.find? e = none →
      ∃ x : FixedInt t, x.toInt = i ∧ e.values fr context m = .ok ⟨.integer t, [some x]⟩
  refused : ¬v.Fits d → Expr.build d (.literal v) [] = invalid (.literal v.printed d)

namespace Expr

variable {v : Literal} {d : DataType}

/-- What casts to the type is accepted, and its row is null exactly where it does not fit. -/
theorem build_literal_of_castsTo (hv : v.isNull = false) (h : v.castsTo d = true) :
    ∃ row, (row.isSome = true ↔ v.Fits d) ∧ v.toSeries d = .ok ⟨d, [row]⟩ ∧
      build d (.literal v) [] = .ok (node d (.literal v) []) := by
  obtain ⟨row, hrow, hfits⟩ := Literal.toSeries_of_castsTo hv h
  exact ⟨row, hfits, hrow, by rw [build_literal, hrow, Outcome.ok_bind]⟩

/-- What does not cast to the type is refused. -/
theorem build_literal_of_not_castsTo (h : v.castsTo d = false) :
    build d (.literal v) [] = invalid (.literal v.printed d) := by
  rw [build_literal, Literal.toSeries_of_not_castsTo h]
  rfl

/-- A literal that was built has the row that it was checked to have. -/
theorem values_of_build_literal {e : Expr} (h : build d (.literal v) [] = .ok e) {fr : Frame}
    {context : Context} {m : Mapping} (hfind : m.find? e = none) :
    e.values fr context m = v.toSeries d := by
  rw [build_literal] at h
  obtain ⟨_, -, h⟩ := Outcome.bind_eq_ok.1 h
  injection h with h
  subst h
  exact values_literal hfind

/-- What casts to a type without a value there is accepted as a null. -/
theorem exists_null_of_not_fits (hv : v.isNull = false) (h : v.castsTo d = true)
    (hfits : ¬v.Fits d) :
    ∃ e, build d (.literal v) [] = .ok e ∧
      ∀ fr context m, m.find? e = none → e.values fr context m = .ok ⟨d, [none]⟩ := by
  obtain ⟨row, hsome, hrow, hbuild⟩ := build_literal_of_castsTo hv h
  have hnull : row = none := Option.not_isSome_iff_eq_none.1 (mt hsome.1 hfits)
  refine ⟨_, hbuild, fun fr context m hfind ↦ ?_⟩
  rw [values_of_build_literal hbuild hfind, hrow, hnull]

/-- What fits wherever it casts keeps its value. -/
theorem keepsItsValue_of_fits (hv : v.isNull = false)
    (h : v.castsTo d = true → v.Fits d) : v.KeepsItsValue d where
  value e he fr context m hfind := by
    rw [values_of_build_literal he hfind]
    cases hcasts : v.castsTo d with
    | false =>
      rw [build_literal_of_not_castsTo hcasts] at he
      cases he
    | true =>
      obtain ⟨row, hsome, hrow, -⟩ := build_literal_of_castsTo hv hcasts
      obtain ⟨x, rfl⟩ := Option.isSome_iff_exists.1 (hsome.2 (h hcasts))
      exact ⟨x, hrow⟩
  integer e i t he hi hd fr context m hfind := by
    subst hd
    have hrange := (Literal.fits_integer_iff hi).1 (h (v.castsTo_integer t))
    obtain ⟨x, hx⟩ := Option.isSome_iff_exists.1 (FixedInt.isSome_ofInt?.2 hrange)
    refine ⟨x, FixedInt.toInt_ofInt? hx, ?_⟩
    rw [values_of_build_literal he hfind, Literal.toSeries_integer hi, hx]
  refused hfits := build_literal_of_not_castsTo (Bool.eq_false_iff.2 (mt h hfits))

/-- **A literal that is not null keeps its value** unless it casts to a type that has no value for
it, and then it is accepted as a null. A type that it does not cast to is always refused. -/
theorem literal_keepsItsValue_iff (hv : v.isNull = false) :
    (v.KeepsItsValue d ↔ (v.castsTo d = true → v.Fits d)) ∧
      (v.castsTo d = false → build d (.literal v) [] = invalid (.literal v.printed d)) ∧
        (v.castsTo d = true → ¬v.Fits d → ∃ e, build d (.literal v) [] = .ok e ∧
          ∀ fr context m, m.find? e = none → e.values fr context m = .ok ⟨d, [none]⟩) := by
  refine ⟨⟨fun h hcasts ↦ ?_, keepsItsValue_of_fits hv⟩, build_literal_of_not_castsTo,
    exists_null_of_not_fits hv⟩
  by_contra hfits
  obtain ⟨e, he, -⟩ := exists_null_of_not_fits hv hcasts hfits
  rw [h.refused hfits] at he
  cases he

/-- The least integer of 8 bits is one. -/
theorem literal_keepsItsValue_least :
    (Literal.int (FixedInt.wrap _ (-128))).KeepsItsValue (.integer .int8) :=
  (@literal_keepsItsValue_iff (.int (FixedInt.wrap _ (-128))) (.integer .int8) rfl).1.2
    fun _ ↦ ⟨by decide, by decide⟩

/-- A number beyond the range of its type becomes a null. -/
theorem not_literal_keepsItsValue :
    ¬∀ (v : Literal) (d : DataType), v.isNull = false → v.KeepsItsValue d := by
  intro h
  have hrefused := (h (.int (FixedInt.wrap _ 300)) (.integer .int8) rfl).refused
    (fun hfits ↦ absurd hfits.2 (by decide))
  cases hrefused

end Expr

end Tabular
