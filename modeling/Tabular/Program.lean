import Tabular.GroupBy

/-!
# Programs

A program carries a frame through steps. A step that fails leaves the frame as it was.
-/

namespace Tabular

/-- A step of a program. -/
inductive Step where
  /-- The frame of the expressions' columns. -/
  | select (exprs : List NamedExpr)
  /-- The frame with the expressions' columns in place of those of the same names, or after them. -/
  | extend (exprs : List NamedExpr)
  | rename (source target : String)
  | groupBy (keys aggs : List NamedExpr) (maintainOrder : Bool)

namespace Step

/-- The frame after the step. -/
def run (f : Frame) : Step → Outcome Frame
  | select exprs => do
    Frame.ofColumns (← exprs.mapM fun e ↦ e.evaluate f .frame .empty)
  | extend exprs => do
    Frame.ofColumns (Frame.merge f.columns (← exprs.mapM fun e ↦ e.evaluate f .frame .empty))
  | rename source target => do
    let _ ← f.column source
    Frame.ofColumns (f.columns.map fun c ↦ if c.name == source then ⟨target, c.column⟩ else c)
  | groupBy keys aggs maintainOrder => do
    (← GroupBy.plan keys aggs maintainOrder).evaluate f

end Step

end Tabular
