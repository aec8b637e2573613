import Tabular.DataType

/-!
# Errors

What can go wrong while an expression is built or evaluated, by cause. The first failure of an
operation is its whole result.

An error has a *kind*, the constructor of `Error`, and a *message*, which is the kind's heading
followed by the text of the cause. Kernel faults are the ones for which only the kind is part of
the library's output; their texts are for people.
-/

namespace Tabular

/-- Constructs that the engine does not implement. -/
inductive Unsupported where
  | cast (source target : DataType)
  | binary (operator : String) (left right out : DataType)
  /-- A function applied to a type it is not defined over. -/
  | undefinedOver (function : String) (d : DataType)
  | extract (component : String) (d : DataType)
  | literalColumn (actual declared : DataType)
  | gatherIndices (d : DataType)
  | filterMask (d : DataType)
  | nonBooleanResult (function : String) (d : DataType)
  | membership (needles haystack : DataType)
  | lenientPattern
  | patternNotScalar
  /-- A regular expression that is malformed or too large, in quoted form. -/
  | pattern (quoted : String)
  | replacePattern
  | replaceEmptyTarget
  | replaceNotScalar
  | replaceManyIgnoringCase
  | replaceManyTargets
  | replaceManyReplacements
  | replaceManyEmptyTarget
  | replaceManyNullReplacement
  | sliceBounds
  | parseWithoutFormat
  | parseInexactly
  | parseCached
  | notScalarText (function : String)
  | reverse (function : String)
  | quantileNotLiteral
  | quantileOutside (q : String)
  | aggregation (name : String)
  | aggregationIn (name context : String)
  | rolling
  | groupedRolling
  | grouped (what : String)
  | nestedAggregation
  | groupedNanPropagation (function : String)
  | aggregationInputs (function : String) (count : Nat)
deriving DecidableEq, Repr

namespace Unsupported

/-- The text of the cause. -/
def message : Unsupported → String
  | cast s t => s!"cast from {s.name} to {t.name}"
  | binary op l r out => s!"binary operator {op} on {l.name} and {r.name} producing {out.name}"
  | undefinedOver f d => s!"{f} over {d.name}"
  | extract c d => s!"extracting {c} from {d.name}"
  | literalColumn a d => s!"literal column of {a.name} declared as {d.name}"
  | gatherIndices d => s!"gather with {d.name} indices"
  | filterMask d => s!"filter with {d.name} mask"
  | nonBooleanResult f d => s!"{f} must produce Boolean, not {d.name}"
  | membership n h => s!"is_in over mismatched types {n.name} and {h.name}"
  | lenientPattern => "strict=false is not supported for regex contains"
  | patternNotScalar => "regex contains only supports a scalar pattern"
  | pattern quoted => "unsupported regex " ++ quoted
  | replacePattern => "replace with a regex pattern"
  | replaceEmptyTarget => "replace with an empty target string"
  | replaceNotScalar => "replace needs scalar string literals for target and replacement"
  | replaceManyIgnoringCase => "case-insensitive replace_many"
  | replaceManyTargets => "replace_many targets must be string literals"
  | replaceManyReplacements => "replace_many replacements must be string literals"
  | replaceManyEmptyTarget => "replace_many with an empty target"
  | replaceManyNullReplacement => "replace_many with a null replacement"
  | sliceBounds => "slice offset and length must be integer literals"
  | parseWithoutFormat => "strptime without an explicit format"
  | parseInexactly => "strptime with exact=false"
  | parseCached => "strptime with cache=true"
  | notScalarText f => s!"{f} needs a scalar string literal"
  | reverse f => s!"{f} with reverse=true"
  | quantileNotLiteral => "quantile must be a numeric literal"
  | quantileOutside q => s!"quantile {q} outside [0, 1]"
  | aggregation f => s!"aggregation {f}"
  | aggregationIn f context => s!"aggregation {f} in {context} context"
  | rolling => "Rolling window not implemented"
  | groupedRolling => "Grouped rolling window not implemented"
  | grouped what => s!"{what} in groupby"
  | nestedAggregation => "Nested aggregations in groupby"
  | groupedNanPropagation f => s!"NaN-propagating {f} in groupby"
  | aggregationInputs f n => s!"{f} over an expression with {n} aggregation inputs"

end Unsupported

/-- Arguments that an operation refuses. -/
inductive InvalidArgument where
  | arity (name : String) (expected actual : Nat)
  | noInputs (name : String)
  | columnLength (column : String) (actual expected : Nat)
  | duplicateColumn (column : String)
  | flagCount (keys : Nat) (flag : String) (actual : Nat)
  | operandLengths (left right : Nat)
  | broadcast (length rows : Nat)
  | rowCount (length rows : Nat)
  | ternaryPredicate
  | filterMask
  | gatherIndices (d : DataType)
  | noSortKey
  | sortOptions (keys options : Nat)
  | sortByNoKey
  | sortByFlags (keys : Nat) (flag : String) (actual : Nat)
  | notText (d : DataType)
  | replaceEmptyTarget
  | replaceManyEmptyTarget
  | replaceManyCount (targets replacements : Nat)
  /-- The same mismatch, found when the expression is built. -/
  | replaceManyLiteralCount (targets replacements : Nat)
  | parseTarget (d : DataType)
  | membership (needles haystack : DataType)
  | quantile (q : String)
  /-- A literal, in written form, that its declared type cannot hold. -/
  | literal (text : String) (d : DataType)
deriving DecidableEq, Repr

namespace InvalidArgument

/-- The text of the cause. -/
def message : InvalidArgument → String
  | arity f n k => s!"{f} takes {n} inputs, got {k}"
  | noInputs f => s!"{f} needs at least one input"
  | columnLength c n m => s!"column '{c}' has {n} rows, expected {m}"
  | duplicateColumn c => s!"duplicate column name '{c}'"
  | flagCount n flag k => s!"expected 1 or {n} {flag} flags, got {k}"
  | operandLengths l r => s!"operand lengths {l} and {r} cannot be broadcast"
  | broadcast n rows => s!"cannot broadcast column of length {n} to {rows} rows"
  | rowCount n rows => s!"column of length {n} does not match {rows} rows"
  | ternaryPredicate => "ternary predicate must be boolean"
  | filterMask => "filter mask must be boolean"
  | gatherIndices d => s!"gather indices must be integers, got {d.name}"
  | noSortKey => "sort needs at least one key"
  | sortOptions n k => s!"{n} sort keys but {k} sort options"
  | sortByNoKey => "SortBy needs at least one key"
  | sortByFlags n flag k => s!"SortBy has {n} keys but {k} {flag} flags"
  | notText d => s!"expected a string column, got {d.name}"
  | replaceEmptyTarget => "replace target must not be empty"
  | replaceManyEmptyTarget => "replace targets must not be empty"
  | replaceManyCount t r => s!"{t} targets but {r} replacements"
  | replaceManyLiteralCount t r => s!"replace_many has {t} targets but {r} replacements"
  | parseTarget d => s!"cannot parse strings into {d.name}"
  | membership n h => s!"is_in needs matching types, got {n.name} and {h.name}"
  | quantile q => s!"quantile must lie in [0, 1], got {q}"
  | literal text d => s!"literal {text} cannot be represented as {d.name}"

end InvalidArgument

/-- Inputs that a column kernel is not defined on. -/
inductive KernelFault where
  | conversion (source target : DataType)
  | dateOutOfRange
  /-- A time zone that is no offset. -/
  | unknownZone (zone : String)
  | overflow
  | comparison (d : DataType)
  | noOrder (d : DataType)
  | keyLengths
  | placeOutside
  | maskLength
  | noColumns
deriving DecidableEq, Repr

namespace KernelFault

/-- The text of the cause. -/
def message : KernelFault → String
  | conversion s t => s!"no conversion from {s.name} to {t.name}"
  | dateOutOfRange => "a value names no date"
  | unknownZone zone => s!"{zone} is no time zone"
  | overflow => "arithmetic overflow"
  | comparison d => s!"values of {d.name} cannot be compared"
  | noOrder d => s!"values of {d.name} have no order"
  | keyLengths => "sort keys differ in length"
  | placeOutside => "a place lies outside the column"
  | maskLength => "the mask is longer than the column"
  | noColumns => "a batch needs a column"

end KernelFault

/-- A failure, by kind and cause. -/
inductive Error where
  | unsupported (cause : Unsupported)
  /-- A row that strict parsing cannot turn into a time. -/
  | unparsedRow
  /-- A gather whose least and greatest index do not lie within `rows` rows. -/
  | outOfBounds (least greatest : Int) (rows : Nat)
  | columnNotFound (name : String)
  | invalidArgument (cause : InvalidArgument)
  /-- A column that is not Boolean where the expression's types promise one. -/
  | notBoolean (d : DataType)
  /-- A node without the children that its kind is built with. -/
  | malformed (kind : String)
  | kernel (cause : KernelFault)
deriving DecidableEq, Repr

namespace Error

/-- The heading of the error's kind and the text of its cause. -/
def message : Error → String
  | unsupported cause => "unsupported expression: " ++ cause.message
  | unparsedRow => "invalid operation: conversion from \x60str\x60 failed."
  | outOfBounds least greatest n =>
    "index out of bounds: gather indices [" ++ toString least ++ ", " ++ toString greatest ++
      "] outside [-" ++ toString n ++ ", " ++ toString n ++ ")"
  | columnNotFound name => "column not found: " ++ name
  | invalidArgument cause => "Invalid argument: " ++ cause.message
  | notBoolean d => "An internal operation failed: expected Boolean, got " ++ d.name
  | malformed kind => "An internal operation failed: malformed " ++ kind
  | kernel cause => "kernel failure: " ++ cause.message

end Error

/-- The outcome of an operation that may fail. -/
abbrev Outcome (α : Type) := Except Error α

/-- Fails as a construct that is not implemented. -/
def unsupported {α : Type} (cause : Unsupported) : Outcome α := .error (.unsupported cause)

/-- Fails for an argument that is refused. -/
def invalid {α : Type} (cause : InvalidArgument) : Outcome α := .error (.invalidArgument cause)

/-- Fails in a column kernel. -/
def kernelFault {α : Type} (cause : KernelFault) : Outcome α := .error (.kernel cause)

end Tabular
