import Tabular.Proofs.Rows.Conversion
import Tabular.Proofs.Rows.Selection
import Tabular.Series.Select

/-!
# Gathered rows

A gather takes the rows of a series at indices, of which negative ones count from the end (`Means`).
It fails if an index is outside the series, which it finds out from the least and the greatest of
them.

The indices that it looks at are not always those that it was given. They are converted to integers
of 64 bits with a sign first, and the conversion makes a null of what does not fit: an unsigned
index beyond those integers is outside every series, but it gives a null row and not an error
(`Series.not_gathersExactly`). For the indices as they are read, and so for all others, the bounds
are exact (`Series.gather_exactly`).
-/

namespace Tabular

/-- The row that an index means: a null one means none, and a negative one counts from the end. -/
inductive Means {α : Type} (rows : List (Option α)) : Option Int → Option α → Prop
  | null : Means rows none none
  | fromStart {i : Int} {row : Option α} (hi : 0 ≤ i) (h : rows[i.toNat]? = some row) :
    Means rows (some i) row
  | fromEnd {i : Int} {row : Option α} (hi : i < 0)
    (h : rows[(rows.length + i).toNat]? = some row) : Means rows (some i) row

/-- The index lies among `n` rows. -/
def Inside (n : Nat) (i : Int) : Prop := -(n : Int) ≤ i ∧ i < n

/-- An index inside has a place among the rows. -/
theorem placeOf_lt {n : Nat} {i : Int} (h : Inside n i) : placeOf n i < n := by
  obtain ⟨hlow, hhigh⟩ := h
  unfold placeOf
  split <;> omega

/-- The row at the place of an index is the one that it means. -/
theorem Means.of_placeOf {α : Type} {rows : List (Option α)} {i : Int} {row : Option α}
    (h : rows[placeOf rows.length i]? = some row) : Means rows (some i) row := by
  unfold placeOf at h
  split at h
  · next hi => exact .fromEnd hi (by rwa [Int.add_comm])
  · next hi => exact .fromStart (Int.not_lt.1 hi) h

namespace Series

variable {t : IntType} {s : Series} {indices : List (Option Int)}

/-- What the gather of the rows of a series at indices has to be: it succeeds exactly if every index
is inside the series, its error names the least and the greatest of the indices, and its rows are
those that the indices mean. -/
structure GathersExactly (s : Series) (indices : List (Option Int)) (result : Outcome Series) :
    Prop where
  succeeds_iff : (∃ out, result = .ok out) ↔ ∀ i, some i ∈ indices → Inside s.length i
  fails : (¬∃ out, result = .ok out) → ∃ least greatest,
    result = .error (.outOfBounds least greatest s.length) ∧ some least ∈ indices ∧
      some greatest ∈ indices ∧ ∀ i, some i ∈ indices → least ≤ i ∧ i ≤ greatest
  rows : ∀ out, result = .ok out → ∃ rows : List (Option s.dtype.Value),
    out = ⟨s.dtype, rows⟩ ∧ List.Forall₂ (Means s.rows) indices rows

/-! ### Indices as integers -/

/-- The gather at indices that are integers. -/
def gatherAt (s : Series) (indices : List (Option Int)) : Outcome Series :=
  let valid := indices.filterMap id
  match valid.min?, valid.max? with
  | some least, some greatest =>
    if least < -(s.length : Int) ∨ (s.length : Int) ≤ greatest then
      .error (.outOfBounds least greatest s.length)
    else .ok (s.take (indices.map (Option.map (placeOf s.length))))
  | _, _ => .ok (nulls s.dtype indices.length)

/-- Indices without a valid one. -/
theorem gatherAt_of_forall_none (h : ∀ i, some i ∉ indices) :
    s.gatherAt indices = .ok (s.take (indices.map (Option.map (placeOf s.length)))) := by
  have hnone : indices = List.replicate indices.length none :=
    List.eq_replicate_iff.2 ⟨rfl, fun i hi ↦ by
      cases i with
      | none => rfl
      | some i => exact absurd hi (h i)⟩
  rw [hnone, gatherAt, take]
  simp [nulls]

/-- Indices with a valid one have a least and a greatest one. -/
theorem exists_gatherAt {i : Int} (hi : some i ∈ indices) :
    ∃ least greatest, some least ∈ indices ∧ some greatest ∈ indices ∧
      (∀ i, some i ∈ indices → least ≤ i ∧ i ≤ greatest) ∧
      s.gatherAt indices =
        if least < -(s.length : Int) ∨ (s.length : Int) ≤ greatest then
          .error (.outOfBounds least greatest s.length)
        else .ok (s.take (indices.map (Option.map (placeOf s.length)))) := by
  have hvalid {i : Int} : i ∈ indices.filterMap id ↔ some i ∈ indices := by simp
  have hne : indices.filterMap id ≠ [] := List.ne_nil_of_mem (hvalid.2 hi)
  obtain ⟨least, hleast⟩ := Option.ne_none_iff_exists'.1 (mt List.min?_eq_none_iff.1 hne)
  obtain ⟨greatest, hgreatest⟩ := Option.ne_none_iff_exists'.1 (mt List.max?_eq_none_iff.1 hne)
  obtain ⟨hmem, hle⟩ := List.min?_eq_some_iff.1 hleast
  obtain ⟨hmem', hge⟩ := List.max?_eq_some_iff.1 hgreatest
  refine ⟨least, greatest, hvalid.1 hmem, hvalid.1 hmem',
    fun j hj ↦ ⟨hle j (hvalid.2 hj), hge j (hvalid.2 hj)⟩, ?_⟩
  rw [gatherAt, hleast, hgreatest]

/-- Indices inside the series give the rows at their places. -/
theorem gatherAt_of_inside (h : ∀ i, some i ∈ indices → Inside s.length i) :
    s.gatherAt indices = .ok (s.take (indices.map (Option.map (placeOf s.length)))) := by
  by_cases hvalid : ∃ i, some i ∈ indices
  · obtain ⟨i, hi⟩ := hvalid
    obtain ⟨least, greatest, hleast, hgreatest, -, heq⟩ := exists_gatherAt (s := s) hi
    have hlow := (h least hleast).1
    have hhigh := (h greatest hgreatest).2
    rw [heq, if_neg (by omega)]
  · exact gatherAt_of_forall_none (not_exists.1 hvalid)

/-- An index outside the series is an error. -/
theorem gatherAt_of_outside {i : Int} (hi : some i ∈ indices) (houtside : ¬Inside s.length i) :
    ∃ least greatest, s.gatherAt indices = .error (.outOfBounds least greatest s.length) ∧
      some least ∈ indices ∧ some greatest ∈ indices ∧
      ∀ i, some i ∈ indices → least ≤ i ∧ i ≤ greatest := by
  obtain ⟨least, greatest, hleast, hgreatest, hbounds, heq⟩ := exists_gatherAt (s := s) hi
  have hi := hbounds i hi
  refine ⟨least, greatest, ?_, hleast, hgreatest, hbounds⟩
  rw [heq, if_pos (by unfold Inside at houtside; omega)]

/-- The rows at the places of indices are those that the indices mean. -/
theorem forall₂_means (h : ∀ i, some i ∈ indices → Inside s.length i) :
    List.Forall₂ (Means s.rows) indices
      (s.take (indices.map (Option.map (placeOf s.length)))).rows := by
  show List.Forall₂ (Means s.rows) indices ((indices.map (Option.map (placeOf s.length))).map
    fun p ↦ (p.bind fun i ↦ s.rows.toArray[i]?).join)
  rw [List.map_map]
  refine List.forall₂_map_right_iff.2 (List.forall₂_same.2 fun i hi ↦ ?_)
  cases i with
  | none => exact .null
  | some i =>
    obtain ⟨row, hrow⟩ : ∃ row, s.rows[placeOf s.length i]? = some row :=
      ⟨_, List.getElem?_eq_getElem (placeOf_lt (h i hi))⟩
    refine .of_placeOf ?_
    rw [Function.comp_apply, Option.map_some, Option.bind_some, List.getElem?_toArray, hrow]
    exact hrow

/-- At integers, the gather is what it has to be. -/
theorem gathersExactly_gatherAt (s : Series) (indices : List (Option Int)) :
    GathersExactly s indices (s.gatherAt indices) := by
  by_cases h : ∀ i, some i ∈ indices → Inside s.length i
  · have heq := gatherAt_of_inside h
    refine ⟨⟨fun _ ↦ h, fun _ ↦ ⟨_, heq⟩⟩, fun hnone ↦ absurd ⟨_, heq⟩ hnone, fun out hout ↦ ?_⟩
    rw [heq] at hout
    injection hout with hout
    exact ⟨_, hout.symm, forall₂_means h⟩
  · obtain ⟨i, hi, houtside⟩ : ∃ i, some i ∈ indices ∧ ¬Inside s.length i := by simpa using h
    obtain ⟨least, greatest, heq, hbounds⟩ := gatherAt_of_outside hi houtside
    have herror (out : Series) : s.gatherAt indices ≠ .ok out := by
      rw [heq]
      nofun
    exact ⟨⟨fun ⟨out, hout⟩ ↦ absurd hout (herror out), fun hinside ↦ absurd hinside h⟩,
      fun _ ↦ ⟨least, greatest, heq, hbounds⟩, fun out hout ↦ absurd hout (herror out)⟩

/-! ### Indices as they are read -/

/-- The integer as which an index is read: none if it is beyond the integers of 64 bits with a
sign. -/
def readIndex (i : Option (FixedInt t)) : Option Int :=
  i.bind fun i ↦ if i.toInt ≤ IntType.int64.max then some i.toInt else none

/-- Reading an index is converting it to an integer of 64 bits. -/
theorem map_toInt_ofInt? (i : Option (FixedInt t)) :
    (i.bind fun i ↦ FixedInt.ofInt? .int64 i.toInt).map FixedInt.toInt = readIndex i := by
  cases i with
  | none => rfl
  | some i =>
    have hmin : IntType.int64.min ≤ t.min := by cases t <;> decide
    have hlow := Int.le_trans hmin i.min_le
    by_cases hi : i.toInt ≤ IntType.int64.max
    · simp [readIndex, FixedInt.ofInt?, hlow, hi]
    · simp [readIndex, FixedInt.ofInt?, hi]

/-- Indices are read one by one, before the bounds are looked at. -/
theorem gather_integer (s : Series) (is : List (Option (FixedInt t))) :
    s.gather ⟨.integer t, is⟩ = s.gatherAt (is.map readIndex) := by
  have hrows : (⟨.integer t, is⟩ : Series).convertRows .int64 =
      .ok (is.map fun i ↦ i.bind fun i ↦ FixedInt.ofInt? .int64 i.toInt) :=
    convertRows_eq_map (d := .integer t) (e := .int64) (convertRow_integer t .int64) is
  have hread : is.map readIndex =
      (is.map fun i ↦ i.bind fun i ↦ FixedInt.ofInt? .int64 i.toInt).map
        (Option.map FixedInt.toInt) := by
    simp only [List.map_map, Function.comp_def, map_toInt_ofInt?]
  rw [hread, gatherAt, List.filterMap_map, Function.id_comp, List.map_map, List.length_map,
    Option.map_comp_map]
  show ((⟨.integer t, is⟩ : Series).convertRows .int64 >>= _) = _
  rw [hrows]
  rfl

/-- Only unsigned indices of 64 bits can be beyond those that are read. -/
theorem readIndex_eq (i : Option (FixedInt t))
    (h : t = .uint64 → ∀ x, i = some x → x.toInt ≤ IntType.int64.max) :
    readIndex i = i.map FixedInt.toInt := by
  cases i with
  | none => rfl
  | some i =>
    refine if_pos ?_
    by_cases ht : t = .uint64
    · exact h ht i rfl
    · have hmax : t.max ≤ IntType.int64.max := by cases t <;> first | decide | exact absurd rfl ht
      exact Int.le_trans i.le_max hmax

/-- **A gather is exact for the indices as they are read**: it succeeds if and only if each of them
is inside the series, it fails with the least and the greatest of them otherwise, and its rows are
those that they mean. Indices are read as the integers that they are, save for unsigned ones beyond
the signed integers of 64 bits, which are read as nulls. -/
theorem gather_exactly (s : Series) (is : List (Option (FixedInt t))) :
    GathersExactly s (is.map readIndex) (s.gather ⟨.integer t, is⟩) ∧
      ((t = .uint64 → ∀ i, some i ∈ is → i.toInt ≤ IntType.int64.max) →
        GathersExactly s (is.map (Option.map FixedInt.toInt)) (s.gather ⟨.integer t, is⟩)) := by
  have hread : GathersExactly s (is.map readIndex) (s.gather ⟨.integer t, is⟩) := by
    rw [gather_integer]
    exact gathersExactly_gatherAt s _
  refine ⟨hread, fun h ↦ ?_⟩
  have hsame : is.map readIndex = is.map (Option.map FixedInt.toInt) :=
    List.map_congr_left fun i hi ↦ readIndex_eq i fun ht x hx ↦ h ht x (hx ▸ hi)
  rwa [← hsame]

/-- The platforms of a station. -/
def platforms : Series := ⟨.text .utf8, [some "north", none, some "south"]⟩

/-- The last platform, one that is not known, and the first. -/
def visited : List (Option (FixedInt .int8)) := [some (FixedInt.wrap .int8 (-1)), none,
  some (FixedInt.wrap .int8 0)]

/-- The last platform and the first, with one unknown between them. -/
theorem gather_exactly_platforms :
    GathersExactly platforms [some (-1), none, some 0]
        (platforms.gather ⟨.integer .int8, visited⟩) ∧
      platforms.gather ⟨.integer .int8, visited⟩ =
        .ok ⟨.text .utf8, [some "south", none, some "north"]⟩ :=
  ⟨(gather_exactly platforms visited).2 nofun, rfl⟩

/-- An index beyond the signed integers is outside of every series, but it is no error. -/
theorem not_gathersExactly :
    ¬∀ (t : IntType) (s : Series) (is : List (Option (FixedInt t))),
      GathersExactly s (is.map (Option.map FixedInt.toInt)) (s.gather ⟨.integer t, is⟩) := by
  intro h
  have hexact := h .uint64 platforms [some (FixedInt.wrap .uint64 9223372036854775808)]
  have hinside := hexact.succeeds_iff.1 ⟨_, rfl⟩ 9223372036854775808 List.mem_cons_self
  exact absurd hinside.2 (by decide)

end Series

end Tabular
