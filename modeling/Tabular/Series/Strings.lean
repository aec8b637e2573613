import Tabular.Calendar.Reader
import Tabular.Conversion.Cast
import Tabular.Pattern.Parser
import Tabular.Series.Pairing
import Tabular.Text.Edit

/-!
# Text series

Functions of text on every row; nulls stay null. Text in any layout is read, and so is the null
type; results are text in the standard layout, truth values, or times.
-/

namespace Tabular

namespace Series

/-- The rows of a series as text. -/
def textRows (s : Series) : Outcome (List (Option String)) :=
  match s with
  | ⟨.text _, rows⟩ => .ok rows
  | ⟨.null, rows⟩ => .ok (rows.map fun _ ↦ none)
  | ⟨d, _⟩ => invalid (.notText d)

/-- The series in the standard layout. -/
def toText (s : Series) : Outcome Series := do
  .ok ⟨.utf8, ← s.textRows⟩

/-- A function of the text of every row. -/
def mapText (f : String → String) (s : Series) : Outcome Series := do
  .ok ⟨.utf8, (← s.textRows).map (Option.map f)⟩

/-- Text in lower case. -/
def lowercase (s : Series) : Outcome Series := s.mapText Unicode.lowercase

/-- Text in upper case. -/
def uppercase (s : Series) : Outcome Series := s.mapText Unicode.uppercase

/-- The comparison of every row with a pattern, of its own row or one for all. -/
def matchText (kind : Text.MatchKind) (s pattern : Series) : Outcome (List (Option Bool)) := do
  let texts ← s.textRows
  let needles ← pattern.textRows
  let pairs ← pairRows texts needles
  .ok (pairs.map (onBoth fun text needle ↦ some (kind.holds text needle)))

/-- Whether every row has a match of the regular expression. -/
def matchRegex (r : Pattern.Regex) (s : Series) : Outcome (List (Option Bool)) := do
  .ok ((← s.textRows).map (Option.map r.isMatch))

/-- The characters of every row between two positions. -/
def slice (start : Int) (stop : Option Int) (s : Series) : Outcome Series :=
  s.mapText (Text.slice start stop)

/-- Every row with characters dropped from its ends. -/
def strip (chars : Option String) (side : Text.Side) (s : Series) : Outcome Series :=
  s.mapText (Text.strip chars side)

/-- Every row with up to `count` occurrences of the target replaced. -/
def replace (target replacement : String) (count : Int) (s : Series) : Outcome Series :=
  if target.isEmpty then invalid .replaceEmptyTarget
  else s.mapText (Text.replace target replacement count)

/-- Every row with each target replaced by its replacement, or by the only one. -/
def replaceMany (targets replacements : List String) (s : Series) : Outcome Series :=
  if targets.any String.isEmpty then invalid .replaceManyEmptyTarget
  else
    match replacements with
    | [replacement] => s.mapText (Text.replaceMany (targets.map (·, replacement)))
    | _ =>
      if replacements.length = targets.length then
        s.mapText (Text.replaceMany (targets.zip replacements))
      else invalid (.replaceManyCount targets.length replacements.length)

/-! ### Times -/

/-- The time that every row names in the format. -/
def parsedRows (format : String) (s : Series) :
    Outcome (List (Option (Option Calendar.DateTime))) := do
  .ok ((← s.textRows).map (Option.map (Calendar.parse? format)))

/-- Whether every row names a time in the format. -/
def isTime (format : String) (s : Series) : Outcome (List (Option Bool)) := do
  .ok ((← s.parsedRows format).map (Option.map Option.isSome))

/-- The times that the rows name in the format, as days or as ticks of a timestamp. -/
def toTime (format : String) (d : DataType) (s : Series) : Outcome Series := do
  let times := (← s.parsedRows format).map Option.join
  match d with
  | .date32 => .ok ⟨.date32, times.map (·.bind fun t ↦ FixedInt.ofInt? .int32 t.days)⟩
  | .timestamp unit zone => .ok ⟨.timestamp unit zone, times.map (·.bind (ticksOf? unit))⟩
  | d => invalid (.parseTarget d)

end Series

end Tabular
