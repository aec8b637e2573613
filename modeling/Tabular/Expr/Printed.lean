import Tabular.Expr.Basic
import Tabular.Series.Printed

/-!
# Printed expressions

The canonical form of an expression: the kind's name and, in parentheses, the declared type, the
kind's options and the children.
-/

namespace Tabular

namespace SortOptions

/-- The printed form. -/
def printed (o : SortOptions) : String :=
  Text.record "SortOptions" [("stable", Text.flag o.stable), ("nulls_last", Text.flag o.nullsLast),
    ("descending", Text.flag o.descending)]

end SortOptions

namespace SortByOptions

/-- The printed form. -/
def printed (o : SortByOptions) : String :=
  Text.record "SortByOptions" [("stable", Text.flag o.stable),
    ("nulls_last", Text.listing (o.nullsLast.map Text.flag)),
    ("descending", Text.listing (o.descending.map Text.flag))]

end SortByOptions

/-- The printed options of a kind. -/
def Kind.printedOptions : Kind → List String
  | literal v => [v.printed]
  | literalColumn stored => [stored.series.printed]
  | col name => [Text.quoted name]
  | booleanFunction f => [f.printed]
  | stringFunction f => [f.printed]
  | temporalFunction f => [f.printed]
  | unaryFunction f => [f.printed]
  | sort options => [options.printed]
  | sortBy options => [options.printed]
  | agg f => [f.printed]
  | binOp op => [op.name]
  | _ => []

namespace Expr

mutual

/-- The canonical form of an expression. -/
def printed : Expr → String
  | node d k cs => Text.application k.name (d.name :: (k.printedOptions ++ printedAll cs))

/-- The canonical forms of expressions. -/
def printedAll : List Expr → List String
  | [] => []
  | c :: cs => printed c :: printedAll cs

end

end Expr

end Tabular
