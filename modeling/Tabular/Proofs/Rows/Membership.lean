import Tabular.Proofs.Order.Keys
import Tabular.Proofs.Rows.Nulls

/-!
# Membership

A row is a member of a haystack if a row of the haystack is equal to it. The kernel finds out by
looking the row up in a set of encoded rows, from which the nulls of the haystack are left out; the
equality operator compares two values. Both tell the same values apart (`Series.equalRows_iff`),
floating-point numbers by their bits included, and so membership is equality with some value, to the
operator (`Series.isIn_iff_equalRows`). What is looked up in is a set: the order of the haystack,
repetitions and nulls in it are no matter (`Series.isIn_congr`).

Lists are members of lists as well, but the operator refuses to compare them
(`Series.not_isIn_iff_eq`).
-/

namespace Tabular

namespace Series

variable {d : DataType} {rows hay hay' : List (Option d.Value)}

/-- The values of a haystack are its rows that are not marked as null. -/
theorem mem_values_iff (hd : d ≠ .null) {row : Option d.Value} :
    row ∈ ((hay.zip (⟨d, hay⟩ : Series).marked).filter (·.2)).map (·.1) ↔
      row ∈ hay ∧ row ≠ none := by
  rw [marked_eq fun hnull ↦ absurd hnull hd, ← List.map_prod_left_eq_zip]
  simp [Option.isSome_iff_ne_none]

/-- **Membership row by row**: null for a null, and otherwise whether the haystack has the value. -/
theorem isIn_eq (hd : d ≠ .null) (rows hay : List (Option d.Value)) :
    (⟨d, rows⟩ : Series).isIn ⟨d, hay⟩ =
      .ok (rows.map fun row ↦ row.map fun v ↦ decide (some v ∈ hay)) := by
  have hrows : (⟨d, hay⟩ : Series).rowsAs? d = some hay := dif_pos rfl
  have hmarked : (⟨d, rows⟩ : Series).marked = rows.map Option.isSome :=
    marked_eq fun hnull ↦ absurd hnull hd
  simp only [isIn, hrows, hmarked, mem_values_iff hd, ← List.map_prod_left_eq_zip, List.map_map]
  refine congrArg Except.ok (List.map_congr_left fun row _ ↦ ?_)
  cases row <;> simp

/-- Haystacks with the same values have the same members. -/
theorem isIn_congr (hd : d ≠ .null) (h : ∀ v, some v ∈ hay ↔ some v ∈ hay') :
    (⟨d, rows⟩ : Series).isIn ⟨d, hay⟩ = (⟨d, rows⟩ : Series).isIn ⟨d, hay'⟩ := by
  simp only [isIn_eq hd, h]

/-- Two rows are equal: to the equality operator or, where there is none, as lists. -/
def EqualRows (d : DataType) (a b : Option d.Value) : Prop :=
  if d.isList then a = b
  else (single d a).combine (.comparison .eq) .boolean (single d b) = .ok (ofFlags [some true])

/-- **The equality operator tells values apart as they are.** -/
@[simp]
theorem equalRows_iff {a b : d.Value} : EqualRows d (some a) (some b) ↔ a = b := by
  unfold EqualRows
  split
  · exact Option.some_inj
  · next hlist =>
    have hflag : Comparison.onRows .eq d (some a, some b) =
        some (d.compareValues .before a b == .eq) := rfl
    rw [single, single, combine_comparison_single .eq (Bool.eq_false_iff.2 hlist), hflag]
    have heq : d.compareValues .before a b = .eq ↔ a = b := Std.LawfulEqCmp.compare_eq_iff_eq
    simp [ofFlags, heq]

/-- **Membership is equality with some value**, for a haystack of the type of the rows. The answer
is null for a null. The order of the haystack is no matter, nor is how often it has a value, nor
whether it has nulls. -/
theorem isIn_iff_equalRows (hd : d ≠ .null) (rows hay : List (Option d.Value)) :
    ∃ flags, (⟨d, rows⟩ : Series).isIn ⟨d, hay⟩ = .ok flags ∧ flags.length = rows.length ∧
      (∀ i (hi : i < rows.length), (flags[i]? = some none ↔ rows[i] = none) ∧
        (flags[i]? = some (some true) ↔
          rows[i] ≠ none ∧ ∃ row ∈ hay, row ≠ none ∧ EqualRows d rows[i] row)) ∧
      ∀ hay', (∀ v, some v ∈ hay' ↔ some v ∈ hay) →
        (⟨d, rows⟩ : Series).isIn ⟨d, hay'⟩ = .ok flags := by
  refine ⟨_, isIn_eq hd rows hay, List.length_map _, fun i hi ↦ ?_,
    fun hay' h ↦ (isIn_congr hd h).trans (isIn_eq hd rows hay)⟩
  rw [List.getElem?_map, List.getElem?_eq_getElem hi, Option.map_some]
  cases hrow : rows[i] with
  | none => simp
  | some v =>
    -- Nothing equals a missing row of the haystack, so that only its values matter.
    have hmem : (∃ row ∈ hay, row ≠ none ∧ EqualRows d (some v) row) ↔ some v ∈ hay := by
      constructor
      · rintro ⟨row, hmem, hne, hequal⟩
        obtain ⟨w, rfl⟩ := Option.ne_none_iff_exists'.1 hne
        exact equalRows_iff.1 hequal ▸ hmem
      · exact fun h ↦ ⟨some v, h, nofun, equalRows_iff.2 rfl⟩
    rw [hmem]
    simp

/-- The trees that are looked for, and those that were found. -/
theorem isIn_iff_equalRows_trees :
    DataType.utf8 ≠ .null ∧ ∃ flags, isIn ⟨.utf8, [some "elm", none, some "fir"]⟩
        ⟨.utf8, [some "oak", none, some "elm", some "elm"]⟩ = .ok flags ∧
      flags[0]? = some (some true) ∧ flags[1]? = some none ∧ flags[2]? ≠ some (some true) := by
  obtain ⟨flags, hflags, -, hrows, -⟩ := isIn_iff_equalRows (d := .utf8) (by decide)
    [some "elm", none, some "fir"] [some "oak", none, some "elm", some "elm"]
  refine ⟨by decide, flags, hflags, (hrows 0 (by decide)).2.2 ⟨nofun, some "elm", by decide, nofun,
    equalRows_iff.2 rfl⟩, (hrows 1 (by decide)).1.2 rfl, fun hfir ↦ ?_⟩
  obtain ⟨-, row, hmem, hne, hequal⟩ := (hrows 2 (by decide)).2.1 hfir
  obtain ⟨w, rfl⟩ := Option.ne_none_iff_exists'.1 hne
  rw [← equalRows_iff.1 hequal] at hmem
  exact absurd hmem (by decide)

/-- A list is a member of the lists that have it, but the operator refuses to compare it. -/
theorem not_isIn_iff_eq :
    ¬∀ (d : DataType) (rows hay : List (Option d.Value)) (flags : List (Option Bool)), d ≠ .null →
      (⟨d, rows⟩ : Series).isIn ⟨d, hay⟩ = .ok flags → ∀ i (hi : i < rows.length),
        (flags[i]? = some (some true) ↔ ∃ row ∈ hay, row ≠ none ∧
          (single d rows[i]).combine (.comparison .eq) .boolean (single d row) =
            .ok (ofFlags [some true])) := by
  intro h
  have hin : (⟨.list .int64, [some []]⟩ : Series).isIn ⟨.list .int64, [some []]⟩ =
      .ok [some true] := rfl
  obtain ⟨row, hmem, -, hequal⟩ := (h (.list .int64) _ _ _ (by decide) hin 0 (by decide)).1 rfl
  have hfault : (single (.list .int64) (some [])).combine (.comparison .eq) .boolean
      (single (.list .int64) (some [])) = kernelFault (.comparison (.list .int64)) := rfl
  rw [List.mem_singleton.1 hmem] at hequal
  exact absurd (hfault.symm.trans hequal) nofun

end Series

end Tabular
