import Tabular.Series.Math
import Tabular.Series.Reduce
import Tabular.Series.Scan
import Tabular.Series.Temporal
import Tabular.Text.Edit
import Tabular.Text.Quoted
import Tabular.Text.Record

/-!
# Functions of expressions

The functions that an expression node can apply to its children, in families: those with Boolean
results, those of text, the components of dates and times, those of one column, and the
reductions. Each has a name, which messages show, and a printed form, which also shows its options.

A family is one type because its members are checked, evaluated and printed together; what a member
does beyond its family is said by the options in its constructor. No function here has a meaning
yet: that is given by the check of a node and by its evaluation.
-/

namespace Tabular

/-! ### Boolean results -/

/-- Which bounds belong to a range. -/
inductive ClosedInterval where
  | none
  | left
  | right
  | both
deriving DecidableEq, Repr

/-- The name in printed expressions. -/
def ClosedInterval.printed : ClosedInterval → String
  | none => "None"
  | left => "Left"
  | right => "Right"
  | both => "Both"

/-- A function with a Boolean result. -/
inductive BooleanFunction where
  | any (ignoreNulls : Bool)
  | all (ignoreNulls : Bool)
  | isNull
  | isNotNull
  | isNan
  | isNotNan
  | isFinite
  | isInfinite
  | isFirstDistinct
  | isLastDistinct
  | isUnique
  | isDuplicated
  | allHorizontal
  | anyHorizontal
  | isIn
  | isBetween (closed : ClosedInterval)
  | not
deriving DecidableEq, Repr

namespace BooleanFunction

/-- The function's name. -/
def name : BooleanFunction → String
  | any _ => "any"
  | all _ => "all"
  | isNull => "is_null"
  | isNotNull => "is_not_null"
  | isNan => "is_nan"
  | isNotNan => "is_not_nan"
  | isFinite => "is_finite"
  | isInfinite => "is_infinite"
  | isFirstDistinct => "is_first_distinct"
  | isLastDistinct => "is_last_distinct"
  | isUnique => "is_unique"
  | isDuplicated => "is_duplicated"
  | allHorizontal => "all_horizontal"
  | anyHorizontal => "any_horizontal"
  | isIn => "is_in"
  | isBetween _ => "is_between"
  | not => "not"

/-- The printed form. -/
def printed : BooleanFunction → String
  | any ignoreNulls => Text.record "Any" [("ignore_nulls", Text.flag ignoreNulls)]
  | all ignoreNulls => Text.record "All" [("ignore_nulls", Text.flag ignoreNulls)]
  | isNull => "IsNull"
  | isNotNull => "IsNotNull"
  | isNan => "IsNan"
  | isNotNan => "IsNotNan"
  | isFinite => "IsFinite"
  | isInfinite => "IsInfinite"
  | isFirstDistinct => "IsFirstDistinct"
  | isLastDistinct => "IsLastDistinct"
  | isUnique => "IsUnique"
  | isDuplicated => "IsDuplicated"
  | allHorizontal => "AllHorizontal"
  | anyHorizontal => "AnyHorizontal"
  | isIn => "IsIn"
  | isBetween closed => Text.record "IsBetween" [("closed", closed.printed)]
  | not => "Not"

end BooleanFunction

/-! ### Text -/

/-- A function of text. -/
inductive StringFunction where
  /-- Whether a text contains another, or has a match of a regular expression. -/
  | contains (literal strict : Bool)
  | startsWith
  | endsWith
  | lowercase
  | uppercase
  /-- Replaces at most `n` matches in each row, all of them when `n` is negative. -/
  | replace (n : FixedInt .int64) (literal : Bool)
  | replaceMany (ignoreCase : Bool)
  | slice
  | strptime (format : Option String) (strict exact cache : Bool)
  | stripChars
  | stripCharsStart
  | stripCharsEnd
deriving DecidableEq

namespace StringFunction

/-- The function's name. -/
def name : StringFunction → String
  | contains _ _ => "contains"
  | startsWith => "starts_with"
  | endsWith => "ends_with"
  | lowercase => "to_lowercase"
  | uppercase => "to_uppercase"
  | replace _ _ => "replace"
  | replaceMany _ => "replace_many"
  | slice => "slice"
  | strptime _ _ _ _ => "strptime"
  | stripChars => "strip_chars"
  | stripCharsStart => "strip_chars_start"
  | stripCharsEnd => "strip_chars_end"

/-- The printed form of text that may be missing. -/
def printedText : Option String → String
  | none => "None"
  | some s => Text.application "Some" [Text.quoted s]

/-- The printed form. -/
def printed : StringFunction → String
  | contains literal strict =>
    Text.record "Contains" [("literal", Text.flag literal), ("strict", Text.flag strict)]
  | startsWith => "StartsWith"
  | endsWith => "EndsWith"
  | lowercase => "Lowercase"
  | uppercase => "Uppercase"
  | replace n literal =>
    Text.record "Replace" [("n", toString n.toInt), ("literal", Text.flag literal)]
  | replaceMany ignoreCase =>
    Text.record "ReplaceMany" [("ascii_case_insensitive", Text.flag ignoreCase)]
  | slice => "Slice"
  | strptime format strict exact cache =>
    Text.record "Strptime" [("format", printedText format), ("strict", Text.flag strict),
      ("exact", Text.flag exact), ("cache", Text.flag cache)]
  | stripChars => "StripChars"
  | stripCharsStart => "StripCharsStart"
  | stripCharsEnd => "StripCharsEnd"

end StringFunction

/-! ### Dates and times -/

/-- A component of a date or time. Microseconds and nanoseconds are those of the whole second. -/
inductive TemporalFunction where
  | year
  | month
  | day
  | weekDay
  | hour
  | minute
  | second
  | millisecond
  | microsecond
  | nanosecond
deriving DecidableEq, Repr

namespace TemporalFunction

/-- The function's name. -/
def name : TemporalFunction → String
  | year => "year"
  | month => "month"
  | day => "day"
  | weekDay => "weekday"
  | hour => "hour"
  | minute => "minute"
  | second => "second"
  | millisecond => "millisecond"
  | microsecond => "microsecond"
  | nanosecond => "nanosecond"

/-- The printed form. -/
def printed : TemporalFunction → String
  | year => "Year"
  | month => "Month"
  | day => "Day"
  | weekDay => "WeekDay"
  | hour => "Hour"
  | minute => "Minute"
  | second => "Second"
  | millisecond => "Millisecond"
  | microsecond => "Microsecond"
  | nanosecond => "Nanosecond"

/-- The components that the function reads, with the multiples that add up to its value. -/
def parts : TemporalFunction → List (DateComponent × Nat)
  | year => [(.year, 1)]
  | month => [(.month, 1)]
  | day => [(.day, 1)]
  | weekDay => [(.weekday, 1)]
  | hour => [(.hour, 1)]
  | minute => [(.minute, 1)]
  | second => [(.second, 1)]
  | millisecond => [(.millisecond, 1)]
  | microsecond => [(.millisecond, 1000), (.microsecond, 1)]
  | nanosecond => [(.millisecond, 1000000), (.microsecond, 1000), (.nanosecond, 1)]

/-- Every function. -/
def all : List TemporalFunction :=
  [year, month, day, weekDay, hour, minute, second, millisecond, microsecond, nanosecond]

/-- Whether the function is defined over the type. -/
def isDefinedOver (f : TemporalFunction) (d : DataType) : Bool :=
  f.parts.all fun (c, _) ↦ d.hasComponent c

end TemporalFunction

/-! ### One column -/

/-- A function of one column; filling nulls also takes the filler. -/
inductive UnaryFunction where
  | math (op : MathOp)
  | dropNulls
  | fillNull
  | maskNans
  | round (decimals : Nat)
  | setSorted (descending : Bool)
  | unique (maintainOrder : Bool)
  | cumMin (reverse : Bool)
  | cumMax (reverse : Bool)
  | cumProd (reverse : Bool)
  | cumSum (reverse : Bool)
deriving DecidableEq, Repr

namespace UnaryFunction

/-- The function's name. -/
def name : UnaryFunction → String
  | math op => op.name
  | dropNulls => "drop_nulls"
  | fillNull => "fill_null"
  | maskNans => "mask_nans"
  | round _ => "round"
  | setSorted _ => "set_sorted"
  | unique _ => "unique"
  | cumMin _ => "cum_min"
  | cumMax _ => "cum_max"
  | cumProd _ => "cum_prod"
  | cumSum _ => "cum_sum"

/-- The printed form. -/
def printed : UnaryFunction → String
  | math op => Text.application "Math" [op.printedName]
  | dropNulls => "DropNulls"
  | fillNull => "FillNull"
  | maskNans => "MaskNans"
  | round decimals => Text.record "Round" [("decimals", toString decimals)]
  | setSorted descending => Text.record "SetSorted" [("descending", Text.flag descending)]
  | unique maintainOrder => Text.record "Unique" [("maintain_order", Text.flag maintainOrder)]
  | cumMin reverse => Text.record "CumMin" [("reverse", Text.flag reverse)]
  | cumMax reverse => Text.record "CumMax" [("reverse", Text.flag reverse)]
  | cumProd reverse => Text.record "CumProd" [("reverse", Text.flag reverse)]
  | cumSum reverse => Text.record "CumSum" [("reverse", Text.flag reverse)]

/-- The operation of a running total, and whether it runs from the end. -/
def scan? : UnaryFunction → Option (Scan × Bool)
  | cumMin reverse => some (.min, reverse)
  | cumMax reverse => some (.max, reverse)
  | cumProd reverse => some (.product, reverse)
  | cumSum reverse => some (.sum, reverse)
  | _ => none

/-- Functions that change the number of rows or depend on the order of all rows, and so cannot be
computed group by group. -/
def isGroupUnsupported (f : UnaryFunction) : Bool :=
  match f with
  | unique _ => true
  | dropNulls => true
  | f => f.scan?.isSome

end UnaryFunction

/-! ### Reductions -/

/-- A reduction of a column to one value. -/
inductive AggFunction where
  /-- With `propagateNans` a NaN makes the result NaN; otherwise NaNs are ignored. -/
  | min (propagateNans : Bool)
  | max (propagateNans : Bool)
  | median
  | nUnique
  | first
  | last
  | mean
  | sum
  | count
  | std (ddof : Nat)
  | var (ddof : Nat)
  /-- The quantile itself is the second child, a literal. -/
  | quantile (interpolation : Interpolation)
deriving DecidableEq, Repr

namespace AggFunction

/-- The reduction's name. -/
def name : AggFunction → String
  | min _ => "min"
  | max _ => "max"
  | median => "median"
  | nUnique => "n_unique"
  | first => "first"
  | last => "last"
  | mean => "mean"
  | sum => "sum"
  | count => "count"
  | std _ => "std"
  | var _ => "var"
  | quantile _ => "quantile"

/-- The printed form. -/
def printed : AggFunction → String
  | min propagateNans => Text.record "Min" [("propagate_nans", Text.flag propagateNans)]
  | max propagateNans => Text.record "Max" [("propagate_nans", Text.flag propagateNans)]
  | median => "Median"
  | nUnique => "NUnique"
  | first => "First"
  | last => "Last"
  | mean => "Mean"
  | sum => "Sum"
  | count => "Count"
  | std ddof => Text.record "Std" [("ddof", toString ddof)]
  | var ddof => Text.record "Var" [("ddof", toString ddof)]
  | quantile interpolation =>
    Text.record "Quantile" [("interpolation", interpolation.printedName)]

/-- Every reduction with its usual options. -/
def all : List AggFunction :=
  [min false, max false, median, nUnique, first, last, mean, sum, count, std 1, var 1,
    quantile .nearest]

/-- The reduction of a name, with its usual options. -/
def ofName (name : String) : Outcome AggFunction :=
  match all.find? (·.name == name) with
  | some f => .ok f
  | none => unsupported (.aggregation name)

/-- Whether a NaN makes the result NaN. -/
def propagatesNans : AggFunction → Bool
  | min propagateNans => propagateNans
  | max propagateNans => propagateNans
  | _ => false

/-- Whether the reduction is an extremum. -/
def isMinOrMax : AggFunction → Bool
  | min _ => true
  | max _ => true
  | _ => false

end AggFunction

/-! ### Reductions of groups -/

/-- The printed form of a reduction of a group. -/
def Aggregation.printed : Aggregation → String
  | collectList => "CollectList"
  | count includeNulls => Text.record "Count" [("include_nulls", Text.flag includeNulls)]
  | nthElement n includeNulls =>
    Text.record "NthElement" [("n", toString n), ("include_nulls", Text.flag includeNulls)]
  | min => "Min"
  | max => "Max"
  | median => "Median"
  | nUnique includeNulls => Text.record "NUnique" [("include_nulls", Text.flag includeNulls)]
  | mean => "Mean"
  | sum => "Sum"
  | std ddof => Text.record "Std" [("ddof", toString ddof)]
  | var ddof => Text.record "Var" [("ddof", toString ddof)]
  | quantile q interpolation =>
    Text.record "Quantile" [("quantile", FloatStyle.printed.format q),
      ("interpolation", interpolation.printedName)]

end Tabular
