import Tabular.Expr.Evaluate
import Tabular.Proofs.Failures.Decided
import Tabular.Proofs.Grouping.Results
import Tabular.Proofs.Rows.Conversion

/-!
# Failures of operations on columns

Most operations on series fail on their data only: rows that do not fit together, values out of
range, conversions that the table has no entry for. This is shown by taking each one apart into its
steps, down to the conversion of a row (`failsOnData_conversion`).

The rest are implemented for some types and not for others, and for each of these the types decide.
A cast or an operator is implemented exactly if its table says so (`Series.decidedBy_cast`,
`Series.decidedBy_combine`), and since the table is asked before any row is looked at, nothing but
the data is left to fail afterwards. Functions of numbers, rounding, running totals, components of
times and reductions have no table in the engine; theirs are `MathOp.isDefinedOver`,
`DataType.isNumeric`, `DataType.hasComponent` and `Aggregation.isDefinedOver`.

To fail on data only is closed under sequences and traversals, so that one walk through the steps of
an operation shows it. To be decided by types is not: the later of two steps has to be decided
whatever series the earlier one gives. Most proofs therefore have one decided step, with steps
around it that fail on their data only.
-/

namespace Tabular

open Outcome

variable {s t : Series} {d : DataType}

/-! ### Operations that fail on data only -/

/-- Rows are paired or of lengths that do not fit. -/
theorem failsOnData_pairRows {α β : Type} (as : List α) (bs : List β) :
    FailsOnData (pairRows as bs) := by
  unfold pairRows
  split
  · exact .ok _
  · split
    · exact .ok _
    · exact .ok _
    · exact .invalid _

/-- A conversion of a row fails on data only. -/
theorem failsOnData_conversion {s d : DataType} {f : Conversion s d} (h : conversion? s d = some f)
    (row : Option s.Value) : FailsOnData (f row) :=
  (Series.failsWith_conversion h row).mono fun _ he ↦ he ▸ ⟨rfl, rfl⟩

theorem failsOnData_between (s d : DataType) : FailsOnData (Conversion.between s d) := by
  unfold Conversion.between
  split
  · exact .kernelFault _
  · exact .kernelFault _
  · exact .ok _

namespace Series

/-- Repeating a row fails on its length only. -/
theorem failsOnData_broadcast (s : Series) (n : Nat) : FailsOnData (s.broadcast n) := by
  unfold broadcast
  split
  · exact .ok _
  · split
    · exact .ok _
    · exact .invalid _

theorem failsOnData_spread (s t : Series) : FailsOnData (s.spread t) :=
  (failsOnData_broadcast s _).bind fun _ _ ↦ (failsOnData_broadcast t _).bind fun _ _ ↦ .ok _

/-- Conversion of rows fails on data only: the conversion may not be found, or fail at a row. -/
theorem failsOnData_convertRows (s : Series) (d : DataType) : FailsOnData (s.convertRows d) := by
  unfold convertRows
  split
  · exact .ok _
  · split
    · exact .ok _
    · refine (failsOnData_between _ _).bind fun f hf ↦ .mapM fun row ↦ ?_
      exact failsOnData_conversion (Conversion.between_eq_ok_iff.1 hf).1 row

theorem failsOnData_convert (s : Series) (d : DataType) : FailsOnData (s.convert d) :=
  (failsOnData_convertRows s d).bind fun _ _ ↦ .ok _

/-- Finding a common type is no failure, and converting to it is one on data. -/
theorem failsOnData_coerce (s t : Series) : FailsOnData (s.coerce t) := by
  unfold coerce
  split
  · exact .ok _
  · exact (failsOnData_convert s _).bind fun _ _ ↦ (failsOnData_convert t _).bind fun _ _ ↦ .ok _

/-- Lists are refused by the kernel of comparisons, after conversion and pairing. -/
theorem failsOnData_compare (c : Comparison) (s t : Series) : FailsOnData (s.compare c t) := by
  refine (failsOnData_coerce s t).bind fun p _ ↦ (failsOnData_convertRows _ _).bind fun _ _ ↦
    (failsOnData_pairRows _ _).bind fun _ _ ↦ ?_
  split
  · exact .kernelFault _
  · exact .ok _

theorem failsOnData_flagPairs (s t : Series) : FailsOnData (s.flagPairs t) :=
  (failsOnData_spread s t).bind fun _ _ ↦ (failsOnData_convertRows _ _).bind fun _ _ ↦
    (failsOnData_convertRows _ _).bind fun _ _ ↦ .ok _

theorem failsOnData_bitwiseInts (b : Bitwise) (t : IntType) (l r : Series) :
    FailsOnData (l.bitwiseInts b t r) :=
  (failsOnData_spread l r).bind fun _ _ ↦ (failsOnData_convertRows _ _).bind fun _ _ ↦
    (failsOnData_convertRows _ _).bind fun _ _ ↦ .ok _

/-- Both orders of spreading and converting fail on data only. -/
theorem failsOnData_operandPairs (op : Arithmetic) (d : DataType) (l r : Series) :
    FailsOnData (l.operandPairs op d r) := by
  unfold operandPairs
  split
  · exact (failsOnData_spread l r).bind fun _ _ ↦ (failsOnData_convertRows _ _).bind fun _ _ ↦
      (failsOnData_convertRows _ _).bind fun _ _ ↦ .ok _
  · exact (failsOnData_convertRows _ _).bind fun _ _ ↦ (failsOnData_convertRows _ _).bind fun _ _ ↦
      failsOnData_pairRows _ _

/-- Arithmetic of numbers wraps or gives null; only its operands can fail. -/
theorem failsOnData_calculate (op : Arithmetic) (out : DataType) (l r : Series) :
    FailsOnData (l.calculate op out r) := by
  unfold calculate
  split
  · exact (failsOnData_operandPairs _ _ _ _).bind fun _ _ ↦ failsOnData_convert _ _
  · exact (failsOnData_operandPairs _ _ _ _).bind fun _ _ ↦ .ok _
  · exact (failsOnData_operandPairs _ _ _ _).bind fun _ _ ↦ .ok _
  · exact .kernelFault _

/-- Sums of ticks may overflow, row by row, and the kernel may lack the type of the result. -/
theorem failsOnData_shiftTicks (op : Arithmetic) (out : DataType) (l r : Series) :
    FailsOnData (l.shiftTicks op out r) := by
  refine (failsOnData_pairRows _ _).bind fun _ _ ↦
    (FailsOnData.mapM fun pair ↦ ?_).bind fun _ _ ↦ ?_
  · split
    · refine FailsOnData.map ?_
      unfold Arithmetic.onTicks
      split
      · exact .ok _
      · exact .kernelFault _
    · exact .ok _
  · unfold ofTicks
    split
    · exact .ok _
    · exact .ok _
    · exact .kernelFault _

/-- The kernel of an operator fails on data only, whatever the operator. -/
theorem failsOnData_apply (op : BinaryOp) (out : DataType) (l r : Series) :
    FailsOnData (l.apply op out r) := by
  cases op with
  | comparison c => exact (failsOnData_compare c l r).bind fun _ _ ↦ .ok _
  | logical c =>
    exact ((failsOnData_flagPairs l r).bind fun _ _ ↦ .ok _).bind fun _ _ ↦ .ok _
  | bitwise b =>
    simp only [apply]
    split
    · exact (failsOnData_bitwiseInts _ _ _ _).bind fun _ _ ↦ .ok _
    · exact ((failsOnData_flagPairs l r).bind fun _ _ ↦ .ok _).bind fun _ _ ↦ .ok _
  | arithmetic a =>
    simp only [apply]
    split
    · exact failsOnData_shiftTicks _ _ _ _
    · exact failsOnData_calculate _ _ _ _

/-- The kernel for one series refuses types that it cannot rank. -/
theorem failsOnData_sortRanked (s : Series) (key : SortKey) (how : PlaceSort) :
    FailsOnData (s.sortRanked key how) := by
  unfold sortRanked
  split
  · exact .ok _
  · exact .kernelFault _

/-- Sorting fails on keys of different lengths, or on types that a kernel refuses. -/
theorem failsOnData_sortIndices (keys : List Series) (options : List SortKey) (stable : Bool)
    (how : PlaceSort) : FailsOnData (sortIndices keys options stable how) := by
  unfold sortIndices
  split
  · exact .invalid _
  · split
    · exact .invalid _
    · split
      · exact failsOnData_sortRanked _ _ _
      · unfold sortColumns
        split
        · exact .kernelFault _
        · split
          · exact .kernelFault _
          · exact .ok _

theorem failsOnData_sort (s : Series) (key : SortKey) (stable : Bool) (how : PlaceSort) :
    FailsOnData (s.sort key stable how) :=
  (failsOnData_sortIndices _ _ _ _).bind fun _ _ ↦ .ok _

theorem failsOnData_sortBy (s : Series) (keys : List Series) (options : List SortKey)
    (stable : Bool) (how : PlaceSort) : FailsOnData (s.sortBy keys options stable how) := by
  refine (failsOnData_sortIndices _ _ _ _).bind fun places _ ↦ ?_
  split
  · exact .kernelFault _
  · exact .ok _

/-- Places may be no integers, or out of bounds. -/
theorem failsOnData_gather (s indices : Series) : FailsOnData (s.gather indices) := by
  unfold gather
  split
  · refine (failsOnData_convertRows _ _).bind fun rows _ ↦ ?_
    dsimp only
    split
    · split
      · rintro _ ⟨⟩
        exact ⟨rfl, rfl⟩
      · exact .ok _
    · exact .ok _
  · exact .invalid _

/-- A mask may be longer than what it filters. -/
theorem failsOnData_keep (s : Series) (mask : List (Option Bool)) : FailsOnData (s.keep mask) := by
  unfold keep
  split
  · exact .kernelFault _
  · exact .ok _

theorem failsOnData_rowsFor {α : Type} (rows : List α) (n : Nat) :
    FailsOnData (rowsFor rows n) := by
  unfold rowsFor
  split
  · exact .ok _
  · split
    · exact .ok _
    · exact .invalid _

/-- Values for the missing rows may not convert, or be too few. -/
theorem failsOnData_fillNull (s fill : Series) : FailsOnData (s.fillNull fill) := by
  unfold fillNull
  split
  · exact .ok _
  · exact (failsOnData_convertRows _ _).bind fun _ _ ↦
      (failsOnData_rowsFor _ _).bind fun _ _ ↦ .ok _

/-- A choice needs rows for its mask. -/
theorem failsOnData_choose (mask s t : Series) : FailsOnData (mask.choose s t) := by
  refine (failsOnData_broadcast _ _).bind fun _ _ ↦ ?_
  split
  · exact .invalid _
  · exact (failsOnData_convertRows _ _).bind fun _ _ ↦ (failsOnData_rowsFor _ _).bind fun _ _ ↦
      (failsOnData_rowsFor _ _).bind fun _ _ ↦ .ok _

theorem failsOnData_isIn (s haystack : Series) : FailsOnData (s.isIn haystack) := by
  unfold isIn
  split
  · exact .invalid _
  · exact .ok _

/-- Only text has texts for rows. -/
theorem failsOnData_textRows (s : Series) : FailsOnData s.textRows := by
  unfold textRows
  split
  · exact .ok _
  · exact .ok _
  · exact .invalid _

theorem failsOnData_mapText (f : String → String) (s : Series) : FailsOnData (s.mapText f) :=
  (failsOnData_textRows s).bind fun _ _ ↦ .ok _

theorem failsOnData_matchText (kind : Text.MatchKind) (s pattern : Series) :
    FailsOnData (matchText kind s pattern) :=
  (failsOnData_textRows _).bind fun _ _ ↦ (failsOnData_textRows _).bind fun _ _ ↦
    (failsOnData_pairRows _ _).bind fun _ _ ↦ .ok _

theorem failsOnData_replace (target replacement : String) (count : Int) (s : Series) :
    FailsOnData (s.replace target replacement count) := by
  unfold replace
  split
  · exact .invalid _
  · exact failsOnData_mapText _ _

/-- There must be as many replacements as targets, or one for all. -/
theorem failsOnData_replaceMany (targets replacements : List String) (s : Series) :
    FailsOnData (s.replaceMany targets replacements) := by
  unfold replaceMany
  split
  · exact .invalid _
  · split
    · exact failsOnData_mapText _ _
    · split
      · exact failsOnData_mapText _ _
      · exact .invalid _

theorem failsOnData_parsedRows (format : String) (s : Series) :
    FailsOnData (s.parsedRows format) :=
  (failsOnData_textRows s).bind fun _ _ ↦ .ok _

/-- Times are read as dates or timestamps. -/
theorem failsOnData_toTime (format : String) (d : DataType) (s : Series) :
    FailsOnData (s.toTime format d) := by
  refine (failsOnData_parsedRows format s).bind fun _ _ ↦ ?_
  cases d with
  | date32 | timestamp _ _ => exact .ok _
  | _ => exact .invalid _

end Series

/-- A text that cannot be read is a failure on data where reading is strict. -/
theorem failsOnData_checkParsed (strict : Bool) (format : String) (s : Series) :
    FailsOnData (StringFunction.checkParsed strict format s) := by
  unfold StringFunction.checkParsed
  split
  · refine ((Series.failsOnData_parsedRows format s).bind fun _ _ ↦ .ok _).bind fun _ _ ↦ ?_
    split
    · rintro _ ⟨⟩
      exact ⟨rfl, rfl⟩
    · exact .ok _
  · exact .ok _

/-- A literal that cannot be stored is invalid. -/
theorem Literal.failsOnData_toSeries (v : Literal) (d : DataType) :
    FailsOnData (v.toSeries d) := by
  unfold toSeries
  split
  · exact .ok _
  · split
    · exact .ok _
    · exact .invalid _

theorem Column.failsOnData_test (p : Binary .double → Bool) (c : Column) :
    FailsOnData (c.test p) :=
  (Series.failsOnData_convertRows _ _).bind fun _ _ ↦ .ok _

/-- A column that a frame does not have is a failure on data. -/
theorem Frame.failsOnData_column (f : Frame) (name : String) : FailsOnData (f.column name) := by
  unfold column
  split
  · exact .ok _
  · rintro _ ⟨⟩
    exact ⟨rfl, rfl⟩

/-! ### Operations that the types decide about -/

namespace Series

/-- **A cast is implemented exactly if its table says so.** -/
theorem decidedBy_cast {t : DataType} (hs : s.dtype = t) (d : DataType) :
    DecidedBy (t.canCast d = true) True (s.cast d) := by
  subst hs
  unfold cast
  split
  · next hd => exact .ok _ (by simp [DataType.canCast, hd]) trivial
  · split
    · next h => exact .of_data (failsOnData_convert s d) h trivial
    · next h => exact .unsupported _ h _

/-- **An operator is implemented exactly if its table says so.** -/
theorem decidedBy_combine (op : BinaryOp) (out : DataType) (l r : Series) :
    DecidedBy (op.supports out l.dtype r.dtype = true) True (l.combine op out r) := by
  unfold combine
  split
  · next h => exact .of_data (failsOnData_apply op out l r) h trivial
  · next h => exact .unsupported _ h _

end Series

/-- Whether the function has a meaning for values of the type. -/
def MathOp.isDefinedOver (op : MathOp) : DataType → Bool
  | .boolean => op = .not || op = .bitInvert
  | .integer t => (op.onInts? (t := t)).isSome
  | .float t => t.hasArithmetic && (op.onFloats? (t := t)).isSome
  | _ => false

/-- Whether there is a sum of values of the type. -/
def DataType.hasSum : DataType → Bool
  | float _ => true
  | integer _ => true
  | boolean => true
  | null => true
  | _ => false

/-- Whether the reduction is implemented for values of the type. -/
def Aggregation.isDefinedOver (agg : Aggregation) (d : DataType) : Bool :=
  match agg with
  | sum => d.hasSum
  | _ => true

namespace Series

/-- A function of numbers has a meaning for the type or fails before it looks at a row. -/
theorem decidedBy_math (op : MathOp) (s : Series) :
    DecidedBy (op.isDefinedOver s.dtype = true) True (s.math op) := by
  obtain ⟨d, rows⟩ := s
  cases d with
  | boolean =>
    simp only [math]
    split
    · next h => exact .ok _ (by simpa [MathOp.isDefinedOver] using h) trivial
    · next h => exact .unsupported _ (by simpa [MathOp.isDefinedOver] using h) _
  | integer t =>
    simp only [math]
    split
    · next h => exact .ok _ (by simp [MathOp.isDefinedOver, h]) trivial
    · next h => exact .unsupported _ (by simp [MathOp.isDefinedOver, h]) _
  | float t =>
    simp only [math]
    split
    · next ht h => exact .ok _ (by simp [MathOp.isDefinedOver, ht, h]) trivial
    -- With arithmetic in the type and a function for the operation the first branch would apply.
    · next h =>
      refine .unsupported _ (fun hdefined ↦ ?_) _
      obtain ⟨ht, hop⟩ := Bool.and_eq_true_iff.1 hdefined
      obtain ⟨f, hf⟩ := Option.isSome_iff_exists.1 hop
      exact h f ht hf
  | _ => exact .unsupported _ Bool.false_ne_true _

/-- Numbers are rounded, and nothing else is. Half precision is refused: it only stores. -/
theorem decidedBy_round (decimals : Nat) (s : Series) :
    DecidedBy (s.dtype.isNumeric = true) True (s.round decimals) := by
  obtain ⟨d, rows⟩ := s
  cases d with
  | integer _ => exact .ok _ rfl trivial
  | float t =>
    simp only [round]
    split
    · next ht => exact .ok _ ht trivial
    · next ht => exact .unsupported _ ht _
  | _ => exact .unsupported _ Bool.false_ne_true _

/-- Running totals are those of numbers. -/
theorem decidedBy_scan (op : Scan) (s : Series) :
    DecidedBy (s.dtype.isNumeric = true) True (s.scan op) := by
  obtain ⟨d, rows⟩ := s
  cases d with
  | integer _ => exact .ok _ rfl trivial
  | float t =>
    simp only [scan]
    split
    · next ht => exact .ok _ ht trivial
    · next ht => exact .unsupported _ ht _
  | _ => exact .unsupported _ Bool.false_ne_true _

/-- Types with a component are those whose rows are times. -/
theorem times?_isSome_of_hasComponent {c : DateComponent} (h : s.dtype.hasComponent c = true) :
    s.times?.isSome = true := by
  obtain ⟨d, rows⟩ := s
  cases d with
  | date32 | date64 | timestamp _ _ => rfl
  | _ => cases h

/-- Components are decided by the type; a zone that cannot be read fails afterwards, on data. -/
theorem decidedBy_component (c : DateComponent) (s : Series) :
    DecidedBy (s.dtype.hasComponent c = true) True (s.component c) := by
  unfold component
  split
  · next h _ => exact .of_data (.kernelFault _) h trivial
  · next h _ => exact .ok _ h trivial
  · next hzone hknown =>
    refine .unsupported _ (fun hc ↦ ?_) _
    obtain ⟨times, htimes⟩ := Option.isSome_iff_exists.1 (times?_isSome_of_hasComponent hc)
    cases h : Calendar.unknownZone? s.dtype.zone? with
    | some zone => exact hzone times zone htimes hc h
    | none => exact hknown times htimes hc h

theorem failsOnData_numbers (s : Series) : FailsOnData s.numbers :=
  (failsOnData_convertRows _ _).bind fun _ _ ↦ .ok _

/-- An extremum is looked for by sorting. -/
theorem failsOnData_extremum (s : Series) (greatest : Bool) :
    FailsOnData (s.extremum greatest) := by
  unfold extremum
  split
  · exact .ok _
  · exact (failsOnData_sortRanked _ _ _).bind fun _ _ ↦ .ok _

theorem failsOnData_quantile (q : Binary .double) (interpolation : Interpolation) (s : Series) :
    FailsOnData (s.quantile q interpolation) := by
  unfold quantile
  split
  · exact (failsOnData_numbers s).bind fun _ _ ↦ .ok _
  · exact .invalid _

/-- Sums are decided by the type alone. -/
theorem decidedBy_sum (s : Series) : DecidedBy (s.dtype.hasSum = true) True s.sum := by
  obtain ⟨d, rows⟩ := s
  cases d with
  | float _ | integer _ | boolean =>
    exact .of_data ((failsOnData_convertRows _ _).bind fun _ _ ↦ .ok _) rfl trivial
  | null => exact .ok _ rfl trivial
  | _ => exact .unsupported _ Bool.false_ne_true _

/-- **A reduction is implemented exactly if there is a sum where one is asked for.** -/
theorem decidedBy_reduce (agg : Aggregation) (s : Series) :
    DecidedBy (agg.isDefinedOver s.dtype = true) True (s.reduce agg) := by
  cases agg with
  | sum => exact decidedBy_sum s
  | collectList | count _ | nthElement _ _ | nUnique _ => exact .ok _ rfl trivial
  | min | max => exact .of_data (failsOnData_extremum s _) rfl trivial
  | median | quantile _ _ => exact .of_data (failsOnData_quantile _ _ s) rfl trivial
  | mean | std _ | var _ =>
    exact .of_data ((failsOnData_numbers s).bind fun _ _ ↦ .ok _) rfl trivial

end Series

end Tabular
