import Mathlib.Data.List.Basic
import Mathlib.Order.Compare
import Tabular.Proofs.Rows.Selection
import Tabular.Series.Sort

/-!
# Laws of the comparisons

The order of rows is a total preorder, for every type, direction and place of nulls: the comparison
of two rows is the reverse of the comparison the other way round, and it is transitive.
`Sortedness.compareRows` is the comparison that a claim of sortedness speaks of, and a sort compares
as the claim that it makes says (`SortKey.compareRows_eq`).

The laws are put together as the comparisons are. An order may be compared through a map
(`transCmp_on`), turned round (`Order.transCmp_apply`), and followed by others, of which the first
that tells apart decides (`transCmp_compareBy`). So a sort by many keys needs no proof of its own.
-/

namespace Tabular

section Comparisons

variable {α : Type} {cmp : α → α → Ordering}

/-- Lists are compared by their first difference. -/
theorem compareLists_eq_compareLex (cmp : α → α → Ordering) :
    compareLists cmp = List.compareLex cmp := by
  funext as bs
  induction as generalizing bs with
  | nil => cases bs <;> rfl
  | cons a as ih =>
    cases bs with
    | nil => rfl
    | cons b bs => rw [compareLists, List.compareLex_cons_cons, ih]

instance transCmp_compareLists [Std.TransCmp cmp] : Std.TransCmp (compareLists cmp) := by
  rw [compareLists_eq_compareLex]
  infer_instance

/-- Nulls before or after all values keep an order. -/
instance transCmp_compareRows [Std.TransCmp cmp] (nulls : NullOrder) :
    Std.TransCmp (compareRows nulls cmp) where
  eq_swap {a b} := by
    cases a <;> cases b <;> cases nulls <;>
      first | rfl | exact ‹Std.TransCmp cmp›.eq_swap
  isLE_trans {a b c} hab hbc := by
    cases a <;> cases b <;> cases c <;> cases nulls <;>
      first
        | rfl
        | exact ‹Std.TransCmp cmp›.isLE_trans hab hbc
        | exact absurd hab Bool.false_ne_true
        | exact absurd hbc Bool.false_ne_true

/-- Comparing images keeps an order. -/
theorem transCmp_on {β : Type} (cmp : α → α → Ordering) (f : β → α) [Std.TransCmp cmp] :
    Std.TransCmp fun a b ↦ cmp (f a) (f b) where
  eq_swap := Std.OrientedCmp.eq_swap
  isLE_trans := Std.TransCmp.isLE_trans

end Comparisons

namespace DataType

/-- The order of values is total. -/
instance transCmp_compareValues (nulls : NullOrder) :
    (d : DataType) → Std.TransCmp (d.compareValues nulls)
  | null => @Std.TransCmp.mk _ _ ⟨fun {a} ↦ nomatch a⟩ fun {a} ↦ nomatch a
  | boolean => inferInstanceAs (Std.TransCmp (compare : Bool → Bool → Ordering))
  | integer _ => transCmp_on compare FixedInt.toInt
  | float _ => transCmp_on compare Binary.orderKey
  | text _ => transCmp_on (compareLists compare) fun s : String ↦ s.toList.map Char.toNat
  | date32 => transCmp_on compare FixedInt.toInt
  | date64 => transCmp_on compare FixedInt.toInt
  | timestamp _ _ => transCmp_on compare FixedInt.toInt
  | duration _ => transCmp_on compare FixedInt.toInt
  | list item =>
    haveI := transCmp_compareValues nulls item
    inferInstanceAs (Std.TransCmp (compareLists (Tabular.compareRows nulls _)))

end DataType

/-- A comparison in the direction. -/
def Order.apply : Order → Ordering → Ordering
  | ascending, o => o
  | descending, o => o.swap

/-- An order turned round is one. -/
theorem Order.transCmp_apply {α : Type} {cmp : α → α → Ordering} [Std.TransCmp cmp] (o : Order) :
    Std.TransCmp fun a b ↦ o.apply (cmp a b) := by
  cases o with
  | ascending => exact ‹Std.TransCmp cmp›
  | descending =>
    have hswap : (fun a b ↦ Order.descending.apply (cmp a b)) = fun a b ↦ cmp b a := by
      funext a b
      exact Std.OrientedCmp.eq_swap.symm
    rw [hswap]
    exact Std.TransCmp.opposite

namespace Sortedness

/-- The order of two rows that the claim speaks of: values in its direction, and nulls where its
place for them puts them. -/
def compareRows (claim : Sortedness) (d : DataType) (a b : Option d.Value) : Ordering :=
  claim.order.apply (Tabular.compareRows claim.nullOrder (d.compareValues claim.nullOrder) a b)

instance transCmp_compareRows (claim : Sortedness) (d : DataType) :
    Std.TransCmp (claim.compareRows d) :=
  claim.order.transCmp_apply

variable {claim : Sortedness} {d : DataType}

/-- Nulls do not stand before one another. -/
@[simp]
theorem compareRows_none : claim.compareRows d none none = .eq := by
  obtain ⟨order, nulls⟩ := claim
  cases order <;> rfl

/-- Nulls are in order before a value if they stand first. -/
@[simp]
theorem isLE_none_some (v : d.Value) :
    (claim.compareRows d none (some v)).isLE = claim.nullsFirst := by
  obtain ⟨order, nulls⟩ := claim
  cases order <;> cases nulls <;> rfl

/-- And a value before nulls if they stand last. -/
@[simp]
theorem isLE_some_none (v : d.Value) :
    (claim.compareRows d (some v) none).isLE = !claim.nullsFirst := by
  obtain ⟨order, nulls⟩ := claim
  cases order <;> cases nulls <;> rfl

end Sortedness

/-- A sort compares as the claim that it makes says. -/
theorem SortKey.compareRows_eq (k : SortKey) (d : DataType) :
    k.compareRows d = (Sortedness.ofKey k).compareRows d := by
  obtain ⟨descending, nullsLast⟩ := k
  cases descending <;> rfl

/-! ### Comparisons one after the other -/

section CompareBy

variable {α : Type} {cmp : α → α → Ordering} {cmps : List (α → α → Ordering)} {a b : α}

/-- Without comparisons there is nothing to tell apart. -/
@[simp]
theorem compareBy_nil : compareBy [] a b = .eq :=
  rfl

/-- The first comparison decides, or the others do. -/
theorem compareBy_cons : compareBy (cmp :: cmps) a b = (cmp a b).then (compareBy cmps a b) :=
  rfl

/-- Comparisons after others decide where those do not. -/
theorem compareBy_append {cmps' : List (α → α → Ordering)} :
    compareBy (cmps ++ cmps') a b = (compareBy cmps a b).then (compareBy cmps' a b) := by
  induction cmps with
  | nil => rfl
  | cons cmp cmps ih =>
    rw [List.cons_append, compareBy_cons, compareBy_cons, ih, Ordering.then_assoc]

/-- The first comparison that tells apart decides; the comparisons are orders, and so is this. -/
theorem transCmp_compareBy (h : ∀ cmp ∈ cmps, Std.TransCmp cmp) :
    Std.TransCmp (compareBy cmps) := by
  induction cmps with
  | nil => exact @Std.TransCmp.mk _ _ ⟨rfl⟩ fun _ _ ↦ rfl
  | cons cmp cmps ih =>
    have := h cmp List.mem_cons_self
    have := ih fun c hc ↦ h c (List.mem_cons_of_mem _ hc)
    exact inferInstanceAs (Std.TransCmp (compareLex cmp (compareBy cmps)))

/-- What no comparison tells apart is not told apart. -/
theorem compareBy_eq_iff : compareBy cmps a b = .eq ↔ ∀ cmp ∈ cmps, cmp a b = .eq := by
  induction cmps with
  | nil => exact ⟨fun _ ↦ nofun, fun _ ↦ rfl⟩
  | cons cmp cmps ih =>
    rw [List.forall_mem_cons, ← ih]
    exact Ordering.then_eq_eq

/-- What is in order by the comparisons is so by the first of them. -/
theorem isLE_of_compareBy (h : (compareBy (cmp :: cmps) a b).isLE = true) :
    (cmp a b).isLE = true := by
  rw [compareBy_cons] at h
  cases hcmp : cmp a b with
  | lt | eq => rfl
  | gt =>
    rw [hcmp] at h
    cases h

end CompareBy

namespace Series

/-- Places are compared as their rows. -/
theorem comparePlaces_eq (s : Series) (k : SortKey) (i j : Nat) :
    s.comparePlaces k i j = (Sortedness.ofKey k).compareRows s.dtype (s.rows[i]?).join
      (s.rows[j]?).join := by
  simp only [comparePlaces, SortKey.compareRows_eq, List.getElem?_toArray]

instance transCmp_comparePlaces (s : Series) (k : SortKey) : Std.TransCmp (s.comparePlaces k) := by
  have hcmp : s.comparePlaces k = fun i j ↦ (Sortedness.ofKey k).compareRows s.dtype
      (s.rows[i]?).join (s.rows[j]?).join := by
    funext i j
    exact s.comparePlaces_eq k i j
  rw [hcmp]
  exact transCmp_on _ fun i : Nat ↦ (s.rows[i]?).join

end Series

end Tabular
