import Tabular.Proofs.Order.Extrema
import Tabular.Proofs.Rows.Counts
import Tabular.Proofs.Rows.Sums

/-!
# Running totals

A scan carries a total along the rows, which starts with the first value and takes in every further
one; a null is passed over and stays. What it gives at a row is therefore the fold of the values up
to there (`foldValues`, `getElem?_scanRows`). `Scan.IsTotal` says what that is: for integers their
sum or product, wrapped; for floating-point numbers the sum or product that rounds after each step,
from the first value on; and for the least and the greatest value the extremum of the rows up to
there.

The total at the last value is that of the whole column (`Scan.Totals`). Reductions find it in other
ways: extrema by sorting, sums of integers in 64 bits. They agree with the scan
(`Series.totals_scan`) because a column has one extremum, and because wrapping may be put off to the
end. Sums of floating-point numbers are left out of the comparison, as the reduction adds them up in
another order.
-/

namespace Tabular

/-! ### The total that is carried along -/

section Fold

variable {α : Type} {f : α → α → α} {total : Option α} {rows : List (Option α)} {i : Nat}

/-- The total after one row more: the first value starts it, and a null leaves it. -/
def takeIn (f : α → α → α) : Option α → Option α → Option α
  | total, none => total
  | none, some v => some v
  | some total, some v => some (f total v)

/-- With a value there is a total. -/
theorem exists_takeIn_some (f : α → α → α) (total : Option α) (v : α) :
    ∃ w, takeIn f total (some v) = some w := by
  cases total <;> exact ⟨_, rfl⟩

/-- The fold of the values in their order, from the first one; nothing if there are none. -/
def foldValues (f : α → α → α) (rows : List (Option α)) : Option α :=
  match rows.filterMap id with
  | [] => none
  | v :: vs => some (vs.foldl f v)

/-- The fold starts from the first value and takes in the others. -/
theorem foldValues_eq_some {v : α} : foldValues f rows = some v ↔
    ∃ w ws, rows.filterMap id = w :: ws ∧ ws.foldl f w = v := by
  unfold foldValues
  cases rows.filterMap id <;> simp

/-- From a total on, the values are taken in and nulls are passed over. -/
theorem foldl_takeIn_some (v : α) :
    rows.foldl (takeIn f) (some v) = some ((rows.filterMap id).foldl f v) := by
  induction rows generalizing v with
  | nil => rfl
  | cons row rows ih =>
    cases row with
    | none => exact ih v
    | some w => exact ih (f v w)

/-- Taking in rows from the first one on gives the fold of their values. -/
theorem foldl_takeIn_none : rows.foldl (takeIn f) none = foldValues f rows := by
  induction rows with
  | nil => rfl
  | cons row rows ih =>
    cases row with
    | none => exact ih
    | some v => exact foldl_takeIn_some v

/-- **A step of a scan**: the row is taken in, and the total is noted unless the row is null. -/
theorem scanRows_cons (row : Option α) :
    scanRows f total (row :: rows) =
      (if row.isSome then takeIn f total row else none) ::
        scanRows f (takeIn f total row) rows := by
  cases row <;> cases total <;> rfl

/-- **The run of a scan**: at every value, what has been taken in so far. -/
theorem getElem?_scanRows (f : α → α → α) (total : Option α) (rows : List (Option α)) (i : Nat) :
    (scanRows f total rows)[i]? = rows[i]?.map fun row ↦
      if row.isSome then (rows.take (i + 1)).foldl (takeIn f) total else none := by
  induction rows generalizing total i with
  | nil => cases total <;> rfl
  | cons row rows ih =>
    rw [scanRows_cons]
    cases i with
    | zero => rfl
    | succ i => exact ih (takeIn f total row) i

/-- Nulls stay, and nothing else is null. -/
theorem getElem?_scanRows_eq_none : (scanRows f total rows)[i]? = some none ↔
    rows[i]? = some none := by
  rw [getElem?_scanRows]
  cases hrow : rows[i]? with
  | none => simp
  | some row =>
    cases row with
    | none => simp
    | some v =>
      -- the value is the last one that the total has taken in
      obtain ⟨w, hw⟩ := exists_takeIn_some f ((rows.take i).foldl (takeIn f) total) v
      have htotal : (rows.take (i + 1)).foldl (takeIn f) total = some w := by
        rw [List.take_add_one, hrow, List.foldl_append]
        exact hw
      simp [htotal]

/-- A scan of fewer rows is a part of the scan. -/
@[simp]
theorem scanRows_take (f : α → α → α) (total : Option α) (rows : List (Option α)) (n : Nat) :
    scanRows f total (rows.take n) = (scanRows f total rows).take n := by
  induction rows generalizing total n with
  | nil => cases total <;> simp [scanRows]
  | cons row rows ih =>
    cases n with
    | zero => cases total <;> rfl
    | succ n => rw [List.take_succ_cons, scanRows_cons, scanRows_cons, List.take_succ_cons, ih]

/-- The last value of a scan is the total of all rows. -/
theorem getLast?_scanRows (f : α → α → α) (total : Option α) (rows : List (Option α)) :
    (((scanRows f total rows).filterMap id).getLast?.or total) =
      rows.foldl (takeIn f) total := by
  induction rows generalizing total with
  | nil => cases total <;> rfl
  | cons row rows ih =>
    rw [scanRows_cons, List.foldl_cons, ← ih]
    cases row with
    | none => cases total <;> rfl
    | some v =>
      obtain ⟨w, hw⟩ := exists_takeIn_some f total v
      rw [hw, Option.isSome_some, if_pos rfl]
      show (w :: (scanRows f (some w) rows).filterMap id).getLast?.or total = _
      rw [List.getLast?_cons]
      cases ((scanRows f (some w) rows).filterMap id).getLast? <;> rfl

end Fold

/-! ### What the total says -/

/-- The mathematical product of the values; nulls count for nothing. -/
def valueProduct {t : IntType} (rows : List (Option (FixedInt t))) : Int :=
  ((rows.filterMap id).map FixedInt.toInt).prod

namespace FixedInt

/-- A running product that wraps around wraps the mathematical product. -/
theorem foldl_mul_wrap {t : IntType} (xs : List (FixedInt t)) (i : Int) :
    xs.foldl mul (wrap t i) = wrap t (i * (xs.map toInt).prod) := by
  induction xs generalizing i with
  | nil => rw [List.foldl_nil, List.map_nil, List.prod_nil, Int.mul_one]
  | cons x xs ih =>
    have hstep : (wrap t i).mul x = wrap t (i * x.toInt) := by
      conv_lhs => rw [← wrap_toInt x, wrap_mul_wrap]
    rw [List.foldl_cons, hstep, ih, List.map_cons, List.prod_cons, Int.mul_assoc]

end FixedInt

/-- A running sum of integers is their sum, wrapped. -/
theorem foldValues_add {t : IntType} {rows : List (Option (FixedInt t))} {v : FixedInt t}
    (h : foldValues FixedInt.add rows = some v) : v = FixedInt.wrap t (valueSum rows) := by
  obtain ⟨w, ws, hvalues, rfl⟩ := foldValues_eq_some.1 h
  rw [valueSum, hvalues, List.map_cons, List.sum_cons, ← FixedInt.foldl_add_wrap,
    FixedInt.wrap_toInt]

/-- A running product of integers is their product, wrapped. -/
theorem foldValues_mul {t : IntType} {rows : List (Option (FixedInt t))} {v : FixedInt t}
    (h : foldValues FixedInt.mul rows = some v) : v = FixedInt.wrap t (valueProduct rows) := by
  obtain ⟨w, ws, hvalues, rfl⟩ := foldValues_eq_some.1 h
  rw [valueProduct, hvalues, List.map_cons, List.prod_cons, ← FixedInt.foldl_mul_wrap,
    FixedInt.wrap_toInt]

section Extrema

variable {d : DataType} {greatest : Bool} {f : d.Value → d.Value → d.Value}
  {rows : List (Option d.Value)} {m row : Option d.Value}

/-- The operation picks the one of two values that comes first. -/
def PicksFirst (d : DataType) (greatest : Bool) (f : d.Value → d.Value → d.Value) : Prop :=
  ∀ v w, f v w = v ∧ Precedes d greatest v w ∨ f v w = w ∧ Precedes d greatest w v

/-- An operation that compares by a key picks the value that comes first by the key. -/
theorem picksFirst_of_key {key : d.Value → Int}
    (hkey : ∀ nulls v w, d.compareValues nulls v w = compare (key v) (key w))
    (hf : ∀ v w, f v w = if (if greatest then key v < key w else key w < key v) then w else v) :
    PicksFirst d greatest f := by
  intro v w
  rw [hf, precedes_iff_of_key hkey, precedes_iff_of_key hkey]
  by_cases hlt : if greatest then key v < key w else key w < key v
  · refine .inr ⟨if_pos hlt, ?_⟩
    cases greatest <;> exact Int.le_of_lt hlt
  · refine .inl ⟨if_neg hlt, ?_⟩
    cases greatest <;> exact Int.not_lt.1 hlt

/-- With a row more the extremum is the old one or the new row. -/
theorem IsExtremum.takeIn (hf : PicksFirst d greatest f) (h : IsExtremum d greatest rows m) :
    IsExtremum d greatest (rows ++ [row]) (takeIn f m row) := by
  have hsplit {x : Option d.Value} (hx : x ∈ rows ++ [row]) : x ∈ rows ∨ x = row :=
    (List.mem_append.1 hx).imp_right List.mem_singleton.1
  have hnew : row ∈ rows ++ [row] := List.mem_append_right _ (List.mem_singleton_self row)
  -- A missing row changes nothing. A value is the first one so far, or it competes with the value
  -- that leads and whichever of them comes first leads from then on.
  cases row with
  | none =>
    have hm : Tabular.takeIn f m none = m := by cases m <;> rfl
    rw [hm]
    refine ⟨fun hnone x hx ↦ (hsplit hx).elim (h.eq_none hnone x) id,
      fun v hv ↦ List.mem_append_left _ (h.mem v hv), fun v hv w hw ↦ h.precedes v hv w ?_⟩
    exact (hsplit hw).resolve_right nofun
  | some w =>
    cases m with
    | none =>
      refine .of_mem hnew fun u hu ↦ ?_
      rcases hsplit hu with hu | hu
      · cases h.eq_none rfl _ hu
      · cases hu
        exact .refl w
    | some v =>
      show IsExtremum d greatest _ (some (f v w))
      have hfirst := h.precedes v rfl
      rcases hf v w with ⟨heq, hle⟩ | ⟨heq, hle⟩ <;> rw [heq]
      · refine .of_mem (List.mem_append_left _ (h.mem v rfl)) fun u hu ↦ ?_
        rcases hsplit hu with hu | hu
        · exact hfirst u hu
        · cases hu
          exact hle
      · refine .of_mem hnew fun u hu ↦ ?_
        rcases hsplit hu with hu | hu
        · exact hle.trans (hfirst u hu)
        · cases hu
          exact .refl w

/-- **Taking in rows keeps the extremum.** -/
theorem IsExtremum.foldl_takeIn (hf : PicksFirst d greatest f)
    (h : IsExtremum d greatest rows m) (rows' : List (Option d.Value)) :
    IsExtremum d greatest (rows ++ rows') (rows'.foldl (Tabular.takeIn f) m) := by
  induction rows' generalizing rows m with
  | nil => rwa [List.append_nil]
  | cons row rows' ih =>
    rw [List.append_cons]
    exact ih (h.takeIn hf)

/-- The fold of an operation that picks the first is the extremum. -/
theorem isExtremum_foldValues (hf : PicksFirst d greatest f) (rows : List (Option d.Value)) :
    IsExtremum d greatest rows (foldValues f rows) := by
  have hempty : IsExtremum d greatest [] none := ⟨nofun, nofun, nofun⟩
  rw [← foldl_takeIn_none]
  exact hempty.foldl_takeIn hf rows

end Extrema

/-! ### Scans -/

namespace Scan

variable {op : Scan} {d : DataType} {f : d.Value → d.Value → d.Value}
  {rows : List (Option d.Value)} {v : d.Value}

/-- The operation on the values of a numeric type. -/
def onValues? (op : Scan) : (d : DataType) → Option (d.Value → d.Value → d.Value)
  | .integer _ => some op.onInts
  | .float t => if t.hasArithmetic then some op.onFloats else none
  | _ => none

/-- Floating-point numbers are scanned if there is arithmetic for them, by the operation on them. -/
theorem onValues?_float {t : FloatType} {f : Binary t → Binary t → Binary t}
    (hf : op.onValues? (.float t) = some f) : t.hasArithmetic = true ∧ op.onFloats = f := by
  simpa [onValues?] using hf

/-- Every operation is there for every type of numbers. -/
theorem exists_onValues? (op : Scan) (hd : d.isNumeric = true) :
    ∃ f, op.onValues? d = some f := by
  cases d with
  | integer _ => exact ⟨_, rfl⟩
  | float _ => exact ⟨_, if_pos hd⟩
  | _ => cases hd

/-- What a total is of the values that it is taken of: their extremum in the total order, or their
sum or product. Sums and products of integers are the mathematical ones, wrapped. Those of
floating-point numbers are rounded whenever a value is added or multiplied, in the order of the
rows, and this is no function of the mathematical sum or product. -/
def IsTotal (op : Scan) (d : DataType) (rows : List (Option d.Value)) (v : d.Value) : Prop :=
  match op, d, rows, v with
  | min, d, rows, v => IsExtremum d false rows (some v)
  | max, d, rows, v => IsExtremum d true rows (some v)
  | sum, .integer t, rows, v => v = FixedInt.wrap t (valueSum rows)
  | product, .integer t, rows, v => v = FixedInt.wrap t (valueProduct rows)
  | sum, .float _, rows, v => foldValues Binary.add rows = some v
  | product, .float _, rows, v => foldValues Binary.mul rows = some v
  | _, _, _, _ => False

/-- The running extremum. -/
def ofExtremum : Bool → Scan
  | false => min
  | true => max

/-- The operations for running extrema pick the value that comes first. -/
theorem picksFirst_onValues (greatest : Bool)
    (hf : (ofExtremum greatest).onValues? d = some f) : PicksFirst d greatest f := by
  cases d with
  | integer _ =>
    cases hf
    cases greatest <;> exact picksFirst_of_key (fun _ _ _ ↦ rfl) fun _ _ ↦ rfl
  | float _ =>
    obtain ⟨-, rfl⟩ := onValues?_float hf
    cases greatest <;> exact picksFirst_of_key (fun _ _ _ ↦ rfl) fun _ _ ↦ rfl
  | _ => cases hf

/-- **The fold of the values is their total.** -/
theorem isTotal_of_foldValues (hf : op.onValues? d = some f) (h : foldValues f rows = some v) :
    op.IsTotal d rows v := by
  cases op with
  | min =>
    have hmin := isExtremum_foldValues (picksFirst_onValues false hf) rows
    rwa [h] at hmin
  | max =>
    have hmax := isExtremum_foldValues (picksFirst_onValues true hf) rows
    rwa [h] at hmax
  | sum =>
    cases d with
    | integer t => cases hf; exact foldValues_add h
    | float t =>
      obtain ⟨-, rfl⟩ := onValues?_float hf
      exact h
    | _ => cases hf
  | product =>
    cases d with
    | integer t => cases hf; exact foldValues_mul h
    | float t =>
      obtain ⟨-, rfl⟩ := onValues?_float hf
      exact h
    | _ => cases hf

/-- The reduction that the last total of a scan agrees with; sums of narrow integers are taken in a
wider type, and sums of floating-point numbers in another order. -/
def reduction? : Scan → DataType → Option Aggregation
  | min, _ => some .min
  | max, _ => some .max
  | sum, .integer .int64 => some .sum
  | sum, .integer .uint64 => some .sum
  | _, _ => none

/-- The totals that a scan by an operation gives for some rows. -/
structure Totals (op : Scan) (d : DataType) (rows totals : List (Option d.Value)) : Prop where
  length_eq : totals.length = rows.length
  /-- Nulls stay, and nothing else is null. -/
  eq_none_iff : ∀ i : Nat, totals[i]? = some none ↔ rows[i]? = some none
  /-- A total is that of the values up to its row. -/
  isTotal : ∀ (i : Nat) (v : d.Value), totals[i]? = some (some v) →
    op.IsTotal d (rows.take (i + 1)) v
  /-- A scan of fewer rows is a part of the scan. -/
  scan_take : ∀ n, (⟨d, rows.take n⟩ : Series).scan op = .ok ⟨d, totals.take n⟩
  /-- The last total is the one of the reduction. -/
  reduce_eq : ∀ agg, op.reduction? d = some agg → ∀ v, (totals.filterMap id).getLast? = some v →
    (⟨d, rows⟩ : Series).reduce agg = .ok (.single d (some v))

end Scan

namespace Series

variable {op : Scan} {d : DataType} {f : d.Value → d.Value → d.Value}
  {rows : List (Option d.Value)} {v : d.Value}

/-- A scan of a series is that of its rows. -/
theorem scan_eq (hf : op.onValues? d = some f) (rows : List (Option d.Value)) :
    (⟨d, rows⟩ : Series).scan op = .ok ⟨d, scanRows f none rows⟩ := by
  cases d with
  | integer _ => cases hf; rfl
  | float _ =>
    obtain ⟨ht, rfl⟩ := Scan.onValues?_float hf
    exact if_pos ht
  | _ => cases hf

/-- What a reduction gives is the total of all values. -/
theorem reduce_eq_of_isTotal {agg : Aggregation} (hd : d.isNumeric = true)
    (hagg : op.reduction? d = some agg) (h : op.IsTotal d rows v) :
    (⟨d, rows⟩ : Series).reduce agg = .ok (.single d (some v)) := by
  have hranked : d.isRanked = true := by
    cases d with
    | integer _ | float _ => rfl
    | _ => cases hd
  have hextremum {greatest : Bool} (h : IsExtremum d greatest rows (some v)) :
      (⟨d, rows⟩ : Series).extremum greatest = .ok (.single d (some v)) := by
    obtain ⟨m, hm, hm'⟩ := exists_extremum hranked greatest rows
    rw [hm, hm'.unique h]
  cases op with
  | min =>
    cases hagg
    exact hextremum h
  | max =>
    cases hagg
    exact hextremum h
  | sum =>
    cases d with
    | integer t =>
      obtain rfl : v = FixedInt.wrap t (valueSum rows) := h
      cases t with
      | int64 | uint64 =>
        cases hagg
        exact sum_integer rows
      | _ => cases hagg
    | _ => cases hagg
  | product => cases d <;> cases hagg

/-- **Scans are prefix reductions**, for every numeric type and every operation. -/
theorem totals_scan (op : Scan) (hd : d.isNumeric = true) (rows : List (Option d.Value)) :
    ∃ totals, (⟨d, rows⟩ : Series).scan op = .ok ⟨d, totals⟩ ∧ op.Totals d rows totals := by
  obtain ⟨f, hf⟩ := op.exists_onValues? hd
  have hfold {i : Nat} {v : d.Value} (h : (scanRows f none rows)[i]? = some (some v)) :
      foldValues f (rows.take (i + 1)) = some v := by
    rw [getElem?_scanRows, Option.map_eq_some_iff] at h
    obtain ⟨row, -, h⟩ := h
    obtain ⟨-, h⟩ := Option.ite_none_right_eq_some.1 h
    rwa [← foldl_takeIn_none]
  refine ⟨scanRows f none rows, scan_eq hf rows, length_scanRows f none rows,
    fun _ ↦ getElem?_scanRows_eq_none,
    fun _ _ h ↦ Scan.isTotal_of_foldValues hf (hfold h), fun n ↦ ?_, fun agg hagg v hv ↦ ?_⟩
  · rw [scan_eq hf, scanRows_take]
  · refine reduce_eq_of_isTotal hd hagg (Scan.isTotal_of_foldValues hf ?_)
    rw [← foldl_takeIn_none, ← getLast?_scanRows, hv]
    rfl

/-- What was paid in and out, where an entry is missing at first and another one later. -/
def payments : List (Option (FixedInt .int64)) :=
  [none, some (FixedInt.wrap .int64 30), none, some (FixedInt.wrap .int64 (-12))]

/-- The running sum of the payments. -/
theorem totals_scan_payments :
    DataType.int64.isNumeric = true ∧
    ∃ totals, (⟨.int64, payments⟩ : Series).scan .sum = .ok ⟨.int64, totals⟩ ∧
      Scan.sum.Totals .int64 payments totals :=
  ⟨rfl, totals_scan (d := .int64) .sum rfl payments⟩

end Series

end Tabular
