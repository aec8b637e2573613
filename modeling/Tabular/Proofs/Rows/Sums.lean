import Mathlib.Algebra.BigOperators.Group.List.Basic
import Mathlib.Data.Int.ModEq
import Tabular.Proofs.Rows.Conversion
import Tabular.Proofs.Rows.Reordering

/-!
# Sums of integers

A sum of integers is computed in 64 bits and wraps around. It is the mathematical sum of the values
modulo `2 ^ 64` (`Series.sum_integer`), and so are sums of such sums: nothing is lost when the rows
are first summed up in parts (`sum_toInt_wrap_modEq`). The same holds of numbers of rows,
which do not wrap around as long as they are numbers of rows in memory.
-/

namespace Tabular

namespace FixedInt

variable {t : IntType}

/-- Wrapping changes an integer by a multiple of `2 ^ t.width`. -/
theorem wrapInt_modEq (t : IntType) (i : Int) : wrapInt t i ≡ i [ZMOD twoTo t.width] := by
  have hmod : (i - t.min) % (twoTo t.width : Int) + t.min ≡ i - t.min + t.min
      [ZMOD twoTo t.width] := (Int.mod_modEq _ _).add_right _
  rwa [Int.sub_add_cancel] at hmod

/-- An integer in the range of the type is not changed. -/
theorem wrapInt_eq_self {i : Int} (hlo : t.min ≤ i) (hhi : i ≤ t.max) : wrapInt t i = i :=
  congrArg toInt (wrap_toInt ⟨i, hlo, hhi⟩)

/-- What is in the range is accepted as it is wrapped. -/
theorem ofInt?_eq_some_wrap {i : Int} (hlo : t.min ≤ i) (hhi : i ≤ t.max) :
    ofInt? t i = some (wrap t i) :=
  (dif_pos ⟨hlo, hhi⟩).trans (congrArg some (ext (wrapInt_eq_self hlo hhi).symm))

/-- Integers that differ by a multiple of `2 ^ t.width` are wrapped to the same one. -/
theorem wrap_eq_of_modEq {i j : Int} (h : i ≡ j [ZMOD twoTo t.width]) : wrap t i = wrap t j :=
  ext (congrArg (· + t.min) (h.sub_right t.min))

/-- Wrapped integers add up to the wrapped sum. -/
@[simp]
theorem wrap_add_wrap (t : IntType) (i j : Int) : (wrap t i).add (wrap t j) = wrap t (i + j) :=
  wrap_eq_of_modEq ((wrapInt_modEq t i).add (wrapInt_modEq t j))

@[simp]
theorem wrap_mul_wrap (t : IntType) (i j : Int) : (wrap t i).mul (wrap t j) = wrap t (i * j) :=
  wrap_eq_of_modEq ((wrapInt_modEq t i).mul (wrapInt_modEq t j))

/-- A running sum that wraps around wraps the mathematical sum. -/
theorem foldl_add_wrap (xs : List (FixedInt t)) (i : Int) :
    xs.foldl add (wrap t i) = wrap t (i + (xs.map toInt).sum) := by
  induction xs generalizing i with
  | nil => rw [List.foldl_nil, List.map_nil, List.sum_nil, Int.add_zero]
  | cons x xs ih =>
    have hstep : (wrap t i).add x = wrap t (i + x.toInt) := ext (wrapInt_wrapInt_add t i x.toInt)
    rw [List.foldl_cons, hstep, ih, List.map_cons, List.sum_cons, Int.add_assoc]

end FixedInt

open FixedInt (wrap wrapInt)

/-- Integers that are congruent one by one have congruent sums. -/
theorem sum_map_modEq {α : Type} {n : Int} {f g : α → Int} (h : ∀ a, f a ≡ g a [ZMOD n])
    (as : List α) : (as.map f).sum ≡ (as.map g).sum [ZMOD n] := by
  induction as with
  | nil => exact .refl _
  | cons a as ih =>
    rw [List.map_cons, List.map_cons, List.sum_cons, List.sum_cons]
    exact (h a).add ih

/-- **Wrapped integers add up to what the integers do**, modulo the width. -/
theorem sum_toInt_wrap_modEq {α : Type} (t : IntType) (f : α → Int) (as : List α) :
    ((as.map fun a ↦ wrap t (f a)).map FixedInt.toInt).sum ≡
      (as.map f).sum [ZMOD twoTo t.width] := by
  rw [List.map_map]
  exact sum_map_modEq (fun a ↦ FixedInt.wrapInt_modEq t (f a)) as

/-- Numbers whose sum is in the range of the type are not changed by wrapping. -/
theorem sum_toInt_wrap_eq {α : Type} {t : IntType} {f : α → Nat} {as : List α}
    (h : ((as.map f).sum : Int) ≤ t.max) :
    ((as.map fun a ↦ wrap t (f a)).map FixedInt.toInt).sum = (as.map f).sum := by
  induction as with
  | nil => rfl
  | cons a as ih =>
    rw [List.map_cons, List.sum_cons, Int.natCast_add] at h
    have hmin := t.min_le_zero
    have hself : (wrap t (f a)).toInt = f a := FixedInt.wrapInt_eq_self (by omega) (by omega)
    rw [List.map_cons, List.map_cons, List.sum_cons, List.map_cons, List.sum_cons, hself,
      ih (by omega), Int.natCast_add]

/-! ### Sums of rows -/

/-- The mathematical sum of the values; nulls count for nothing. -/
def valueSum {t : IntType} (rows : List (Option (FixedInt t))) : Int :=
  ((rows.filterMap id).map FixedInt.toInt).sum

variable {t : IntType}

/-- The values of two parts add up. -/
@[simp]
theorem valueSum_append (rows rows' : List (Option (FixedInt t))) :
    valueSum (rows ++ rows') = valueSum rows + valueSum rows' := by
  rw [valueSum, List.filterMap_append, List.map_append, List.sum_append]
  rfl

/-- The values of many parts add up. -/
theorem valueSum_flatMap {α : Type} (part : α → List (Option (FixedInt t))) (as : List α) :
    valueSum (as.flatMap part) = (as.map fun a ↦ valueSum (part a)).sum := by
  induction as with
  | nil => rfl
  | cons a as ih => rw [List.flatMap_cons, valueSum_append, ih, List.map_cons, List.sum_cons]

/-- The order of the rows is no matter to the sum. -/
theorem valueSum_of_perm {rows rows' : List (Option (FixedInt t))} (h : rows.Perm rows') :
    valueSum rows = valueSum rows' :=
  ((h.filterMap id).map FixedInt.toInt).sum_eq

/-- The type in which integers are summed up. -/
def IntType.sumType (t : IntType) : IntType := if t.signed then .int64 else .uint64

/-- Integers are summed up in 64 bits. -/
@[simp]
theorem IntType.width_sumType (t : IntType) : t.sumType.width = 64 := by
  cases t <;> rfl

/-- It holds all integers of the type. -/
theorem FixedInt.exists_sumType (i : FixedInt t) :
    ∃ j, FixedInt.ofInt? t.sumType i.toInt = some j ∧ j.toInt = i.toInt := by
  have hlo := i.min_le
  have hhi := i.le_max
  have hmin : t.sumType.min ≤ t.min := by cases t <;> decide
  have hmax : t.max ≤ t.sumType.max := by cases t <;> decide
  exact ⟨_, dif_pos ⟨hmin.trans hlo, hhi.trans hmax⟩, rfl⟩

namespace Series

/-- The conversion to the type of the sum keeps the values. -/
theorem valueSum_convert (rows : List (Option (FixedInt t))) :
    valueSum (rows.map fun row ↦ row.bind fun i ↦ FixedInt.ofInt? t.sumType i.toInt) =
      valueSum rows := by
  induction rows with
  | nil => rfl
  | cons row rows ih =>
    have hcons {u : IntType} (row : Option (FixedInt u)) (rows : List (Option (FixedInt u))) :
        valueSum (row :: rows) = valueSum [row] + valueSum rows := valueSum_append [row] rows
    have hrow : valueSum [row.bind fun i ↦ FixedInt.ofInt? t.sumType i.toInt] = valueSum [row] := by
      cases row with
      | none => rfl
      | some i =>
        obtain ⟨j, hj, hji⟩ := i.exists_sumType
        rw [Option.bind_some, hj]
        exact congrArg (· + 0) hji
    rw [List.map_cons, hcons, hrow, ih, ← hcons]

/-- **The sum of integers is the mathematical sum, wrapped.** -/
theorem sum_integer (rows : List (Option (FixedInt t))) :
    (⟨.integer t, rows⟩ : Series).sum =
      .ok (.single (.integer t.sumType) (some (wrap t.sumType (valueSum rows)))) := by
  have hconvert := convertRows_eq_map (d := .integer t) (e := .integer t.sumType)
    (convertRow_integer t t.sumType) rows
  have hadd (rows : List (Option (FixedInt t.sumType))) :
      sum.addUp rows = wrap t.sumType (valueSum rows) := by
    rw [sum.addUp, FixedInt.foldl_add_wrap, Int.zero_add]
    rfl
  show (⟨.integer t, rows⟩ : Series).convertRows (.integer t.sumType) >>=
    (fun out ↦ .ok (single (.integer t.sumType) (some (sum.addUp out)))) = _
  rw [hconvert, Outcome.ok_bind, hadd, valueSum_convert]

end Series

end Tabular
