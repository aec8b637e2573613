import Tabular.Expr.Build
import Tabular.Frame

/-!
# Functions of text

The values of these functions on the first child and, for the tests against a text of each row, on
the second. Other arguments are literals, read off the children themselves.
-/

namespace Tabular

namespace StringFunction

/-- How the function compares with the second child, if it does. -/
def matchKind? : StringFunction → Option Text.MatchKind
  | contains true _ => some .contains
  | startsWith => some .startsWith
  | endsWith => some .endsWith
  | _ => none

/-- Fails where strict parsing meets a row that names no time. -/
def checkParsed (strict : Bool) (format : String) (s : Series) : Outcome Unit :=
  if strict then do
    if (← s.isTime format).contains (some false) then .error .unparsedRow else .ok ()
  else .ok ()

/-- The value before it is cast to the declared type `d`. -/
def onSeries (f : StringFunction) (d : DataType) (children : List Expr) (s : Series) :
    Outcome Series :=
  let text? (i : Nat) : Option String := (children[i]?).bind Expr.scalarText?
  let texts? (i : Nat) : Option (List String) :=
    ((children[i]?).bind Expr.literalTexts?).map (·.filterMap id)
  let int? (i : Nat) : Option Int :=
    (((children[i]?).bind Expr.literal?).bind Literal.asInt?).map FixedInt.toInt
  match f with
  | lowercase => s.lowercase
  | uppercase => s.uppercase
  | contains _ _ =>
    match (text? 1).bind Pattern.Regex.ofPattern? with
    | some r => do .ok (.ofFlags (← s.matchRegex r))
    | none => .error (.malformed f.name)
  | replace n _ =>
    match text? 1, text? 2 with
    | some target, some replacement => s.replace target replacement n.toInt
    | _, _ => .error (.malformed f.name)
  | replaceMany _ =>
    match texts? 1, texts? 2 with
    | some targets, some replacements => s.replaceMany targets replacements
    | _, _ => .error (.malformed f.name)
  | slice =>
    match int? 1 with
    | some offset =>
      let (start, stop) := Text.sliceBounds offset (int? 2)
      s.slice start stop
    | none => .error (.malformed f.name)
  | strptime (some format) strict _ _ => do
    checkParsed strict format s
    s.toTime format d
  | stripChars => s.strip (text? 1) .both
  | stripCharsStart => s.strip (text? 1) .start
  | stripCharsEnd => s.strip (text? 1) .finish
  | _ => .error (.malformed f.name)

/-- The value of the function on its evaluated children. A node declared as null keeps the type of
its value. -/
def onColumns (f : StringFunction) (d : DataType) (children : List Expr)
    (columns : List (Outcome Column)) : Outcome Series := do
  let out ← match f.matchKind?, columns with
    | some kind, c :: needle :: _ => do
      let c ← c
      let needle ← needle
      .ok (.ofFlags (← c.series.matchText kind needle.series))
    | none, c :: _ => do f.onSeries d children (← c).series
    | _, _ => .error (.malformed f.name)
  if d = .null then .ok out else out.cast d

end StringFunction

end Tabular
