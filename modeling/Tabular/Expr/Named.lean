import Tabular.Expr.Evaluate
import Tabular.Expr.Printed

/-!
# Named expressions

An expression with the name of the column that it produces.
-/

namespace Tabular

/-- An expression and the name of its column. -/
structure NamedExpr where
  name : String
  value : Expr

namespace NamedExpr

/-- The printed form. -/
def printed (e : NamedExpr) : String := "NamedExpr(" ++ e.name ++ ", " ++ e.value.printed ++ ")"

/-- The named column of the expression over a frame. -/
def evaluate (f : Frame) (context : Context) (m : Mapping) (e : NamedExpr) :
    Outcome NamedColumn := do
  .ok ⟨e.name, ← e.value.evaluate f context m⟩

end NamedExpr

end Tabular
