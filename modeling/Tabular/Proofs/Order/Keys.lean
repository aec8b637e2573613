import Tabular.Proofs.Order.Comparison
import Tabular.Series.Distinct

/-!
# The order of keys

Rows of key series are compared key by key, in ascending order with nulls first. This order tells
apart exactly the rows that equality tells apart (`Series.compareKeys_eq_iff`): values that compare
as equal are equal (`DataType.lawfulEqCmp_compareValues`), for every type, floating-point numbers
with their bits and lists item by item. The order of keys is therefore a linear order of the classes
of rows with equal keys, which is what makes a sort of groups strict.

Most types compare an image of their values, by which the value is determined, so that it is enough
to know this of the order of the images (`lawfulEqCmp_on`). Lists compare item by item, which is
where the proof is an induction on the type.
-/

namespace Tabular

/-! ### Comparisons that decide equality -/

section Equality

variable {α : Type} {cmp : α → α → Ordering}

/-- Lists without a first difference are equal. -/
instance lawfulEqCmp_compareLists [Std.LawfulEqCmp cmp] : Std.LawfulEqCmp (compareLists cmp) where
  compare_self {as} := by
    induction as with
    | nil => rfl
    | cons a as ih =>
      have ha : cmp a a = .eq := Std.ReflCmp.compare_self
      rw [compareLists, ha, ih]
      rfl
  eq_of_compare {as bs} h := by
    induction as generalizing bs with
    | nil =>
      cases bs with
      | nil => rfl
      | cons b bs => cases h
    | cons a as ih =>
      cases bs with
      | nil => cases h
      | cons b bs =>
        obtain ⟨hab, h⟩ := Ordering.then_eq_eq.1 h
        rw [Std.LawfulEqCmp.eq_of_compare hab, ih h]

instance lawfulEqCmp_compareRows [Std.LawfulEqCmp cmp] (nulls : NullOrder) :
    Std.LawfulEqCmp (compareRows nulls cmp) where
  compare_self {a} := by
    cases a with
    | none => rfl
    | some a => exact ‹Std.LawfulEqCmp cmp›.compare_self
  eq_of_compare {a b} h := by
    cases a <;> cases b <;> cases nulls <;>
      first | rfl | cases h | exact congrArg some (‹Std.LawfulEqCmp cmp›.eq_of_compare h)

/-- Comparing images under an injection. -/
theorem lawfulEqCmp_on {β : Type} (cmp : α → α → Ordering) {f : β → α}
    (hf : ∀ {a b}, f a = f b → a = b) [Std.LawfulEqCmp cmp] :
    Std.LawfulEqCmp fun a b ↦ cmp (f a) (f b) where
  compare_self := ‹Std.LawfulEqCmp cmp›.compare_self
  eq_of_compare h := hf (‹Std.LawfulEqCmp cmp›.eq_of_compare h)

end Equality

namespace DataType

/-- **Values that compare as equal are equal.** -/
instance lawfulEqCmp_compareValues (nulls : NullOrder) :
    (d : DataType) → Std.LawfulEqCmp (d.compareValues nulls)
  | null => @Std.LawfulEqCmp.mk _ _ ⟨fun {a} ↦ nomatch a⟩ fun {a} ↦ nomatch a
  | boolean => inferInstanceAs (Std.LawfulEqCmp (compare : Bool → Bool → Ordering))
  | integer _ => lawfulEqCmp_on compare FixedInt.ext
  | float _ => lawfulEqCmp_on compare Binary.orderKey_injective
  | text _ => lawfulEqCmp_on (compareLists compare) fun h ↦
    String.toList_injective (List.map_injective_iff.2 (fun _ _ ↦ Char.toNat_inj.1) h)
  | date32 => lawfulEqCmp_on compare FixedInt.ext
  | date64 => lawfulEqCmp_on compare FixedInt.ext
  | timestamp _ _ => lawfulEqCmp_on compare FixedInt.ext
  | duration _ => lawfulEqCmp_on compare FixedInt.ext
  | list item =>
    haveI := lawfulEqCmp_compareValues nulls item
    inferInstanceAs (Std.LawfulEqCmp (compareLists (Tabular.compareRows nulls _)))

end DataType

/-- Rows that compare as equal are equal, in either direction. -/
instance Sortedness.lawfulEqCmp_compareRows (claim : Sortedness) (d : DataType) :
    Std.LawfulEqCmp (claim.compareRows d) := by
  have hrows : Std.LawfulEqCmp
      (Tabular.compareRows claim.nullOrder (d.compareValues claim.nullOrder)) :=
    Tabular.lawfulEqCmp_compareRows claim.nullOrder
  obtain ⟨order, nulls⟩ := claim
  cases order with
  | ascending => exact hrows
  | descending =>
    exact @Std.LawfulEqCmp.mk _ _ ⟨Ordering.swap_eq_eq.2 hrows.compare_self⟩ fun h ↦
      hrows.eq_of_compare (Ordering.swap_eq_eq.1 h)

/-- Rows that are in order either way round are equal. -/
instance Sortedness.antisymm_compareRows (claim : Sortedness) (d : DataType) :
    Std.Antisymm fun a b ↦ (claim.compareRows d a b).isLE = true :=
  ⟨fun _ _ hab hba ↦ Std.LawfulEqCmp.eq_of_compare (Std.OrientedCmp.isLE_antisymm hab hba)⟩

/-! ### Keys -/

/-- Not greater is less or equal. -/
theorem bne_gt_eq_isLE (o : Ordering) : (o != .gt) = o.isLE := by
  cases o <;> rfl

namespace Series

variable {keys : List Series} {n : Nat}

instance transCmp_compareKeys (keys : List Series) : Std.TransCmp (compareKeys keys) :=
  transCmp_compareBy fun cmp hcmp ↦ by
    obtain ⟨s, -, rfl⟩ := List.mem_map.1 hcmp
    exact transCmp_comparePlaces s _

/-- **Keys compare as equal exactly where rows are the same.** -/
theorem compareKeys_eq_iff {i j : Nat} : compareKeys keys i j = .eq ↔ sameRows keys i j = true := by
  have hplaces (s : Series) : s.comparePlaces ⟨false, false⟩ i j = .eq ↔
      s.samePlaces i j = true := by
    rw [comparePlaces_eq, samePlaces, decide_eq_true_eq, List.getElem?_toArray,
      List.getElem?_toArray]
    exact (lawfulEqCmp_compareRows .before).compare_eq_iff_eq
  simp only [compareKeys, compareBy_eq_iff, sameRows, List.all_map, List.all_eq_true,
    List.forall_mem_map, hplaces, Function.comp_apply]

/-- Selected rows compare as they did where they stood. -/
theorem compareKeys_select {places : List Nat} {a b : Nat} (ha : a < places.length)
    (hb : b < places.length) :
    compareKeys (keys.map (·.select places)) a b = compareKeys keys places[a] places[b] := by
  have hplaces (s : Series) : (s.select places).comparePlaces ⟨false, false⟩ a b =
      s.comparePlaces ⟨false, false⟩ places[a] places[b] := by
    rw [comparePlaces_eq, comparePlaces_eq, select_eq]
    simp only [List.getElem?_map, List.getElem?_eq_getElem ha, List.getElem?_eq_getElem hb]
    rfl
  simp only [compareKeys, compareBy, List.map_map, List.foldr_map, Function.comp_apply, hplaces]

end Series

end Tabular
