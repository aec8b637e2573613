/-!
# Records as text

The written forms of records and lists in printed expressions: a name followed by its fields,
`Name { field: value, other: value }`, a name followed by one value, and a bracketed list.
-/

namespace Tabular.Text

/-- The texts, separated by commas. -/
def commas (items : List String) : String := String.intercalate ", " items

/-- A name with named fields. -/
def record (name : String) (fields : List (String × String)) : String :=
  name ++ " \x7b " ++ commas (fields.map fun (key, value) ↦ key ++ ": " ++ value) ++ " \x7d"

/-- A name with values in parentheses. -/
def application (name : String) (values : List String) : String :=
  name ++ "(" ++ commas values ++ ")"

/-- A list in brackets. -/
def listing (values : List String) : String := "[" ++ commas values ++ "]"

/-- A truth value. -/
def flag (b : Bool) : String := if b then "true" else "false"

end Tabular.Text
