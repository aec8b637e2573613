import Tabular.Column

/-!
# Frames

A frame is a list of named columns of equal length with distinct names. `Frame.ofColumns` is the
only way to build one, so both properties hold of every frame.
-/

namespace Tabular

/-- A column with a name. -/
structure NamedColumn where
  name : String
  column : Column

/-- Looks columns over from left to right for one of the wrong length or with a name used before. -/
def checkColumns (rows : Nat) : List String → List NamedColumn → Outcome Unit
  | _, [] => .ok ()
  | names, c :: cs =>
    if c.column.length ≠ rows then invalid (.columnLength c.name c.column.length rows)
    else if names.contains c.name then invalid (.duplicateColumn c.name)
    else checkColumns rows (c.name :: names) cs

/-- The number of rows of the first column. -/
def rowsOfFirst : List NamedColumn → Nat
  | [] => 0
  | c :: _ => c.column.length

/-- Named columns of equal length with distinct names. -/
structure Frame where
  columns : List NamedColumn
  checked : checkColumns (rowsOfFirst columns) [] columns = .ok ()

namespace Frame

/-- The frame of the columns, if their lengths and names allow it. -/
def ofColumns (columns : List NamedColumn) : Outcome Frame :=
  match h : checkColumns (rowsOfFirst columns) [] columns with
  | .ok () => .ok ⟨columns, h⟩
  | .error e => .error e

/-- The frame without columns. -/
def empty : Frame := ⟨[], rfl⟩

instance : Inhabited Frame := ⟨empty⟩

/-- The number of rows; none without columns. -/
def rows (f : Frame) : Nat := rowsOfFirst f.columns

/-- The column of a name. -/
def column (f : Frame) (name : String) : Outcome Column :=
  match f.columns.find? (·.name == name) with
  | some c => .ok c.column
  | none => .error (.columnNotFound name)

/-- The frame as it comes back from a batch of plain series, which a frame without columns has
none of: all claims about the order of columns are lost. -/
def throughBatch (f : Frame) : Outcome Frame :=
  if f.columns.isEmpty then kernelFault .noColumns
  else ofColumns (f.columns.map fun c ↦ ⟨c.name, { series := c.column.series }⟩)

/-- Columns with some replaced, in place, by those of the same name, and the new ones appended. -/
def merge (old new : List NamedColumn) : List NamedColumn :=
  new.foldl (fun cs c ↦
    if cs.any (·.name == c.name) then cs.map fun o ↦ if o.name == c.name then c else o
    else cs ++ [c]) old

end Frame

end Tabular
