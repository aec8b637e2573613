import Tabular.Unicode.CaseMap
import Tabular.Unicode.Script

/-!
# Named character classes

The classes that patterns name: `\p` properties by general category, script or binary property,
and the bracketed ASCII classes. Names are compared without regard to case, blanks, hyphens and
underscores, and a leading `is` is dropped.
-/

namespace Tabular.Pattern

open Unicode

/-- A property name reduced to what is compared. -/
def normalizeName (cs : List Char) : String :=
  let kept := (cs.filter fun c ↦ c ≠ ' ' ∧ c ≠ '_' ∧ c ≠ '-').map Char.toLower
  match kept with
  | 'i' :: 's' :: rest => if rest = ['c'] then "isc" else String.ofList rest
  | _ => String.ofList kept

/-- Groups of general categories, by short and long name, as the short names of their members. -/
def categoryGroups : List (List String × List String) := [
  (["lc", "casedletter"], ["lu", "ll", "lt"]),
  (["l", "letter"], ["lu", "ll", "lt", "lm", "lo"]),
  (["m", "mark", "combiningmark"], ["mn", "mc", "me"]),
  (["n", "number"], ["nd", "nl", "no"]),
  (["p", "punctuation", "punct"], ["pc", "pd", "ps", "pe", "pi", "pf", "po"]),
  (["s", "symbol"], ["sm", "sc", "sk", "so"]),
  (["z", "separator"], ["zs", "zl", "zp"])]

/-- The characters of an assigned general category. -/
def inCategory (short : String) (c : Char) : Bool :=
  categories.any fun g ↦ g.short == short && g.chars.contains c

/-- Characters of some assigned category. -/
def isAssigned (c : Char) : Bool := categories.any fun g ↦ g.chars.contains c

/-- The class of a general category or a group of them. -/
def categoryClass? (name : String) : Option (Char → Bool) :=
  let name := if name = "digit" then "nd" else if name = "cntrl" then "cc" else name
  if name = "any" then some fun _ ↦ true
  else if name = "ascii" then some fun c ↦ c.toNat < 0x80
  else if name = "assigned" then some isAssigned
  else if name = "cn" ∨ name = "unassigned" then some fun c ↦ !isAssigned c
  else if name = "c" ∨ name = "other" then
    some fun c ↦ !isAssigned c || inCategory "cc" c || inCategory "cf" c || inCategory "co" c
  else
    match categories.find? fun g ↦ g.short == name || g.long == name with
    | some g => some g.chars.contains
    | none =>
      (categoryGroups.find? fun g ↦ g.1.contains name).map fun g c ↦ g.2.any (inCategory · c)

/-- The class of a script. -/
def scriptClass? (name : String) : Option (Char → Bool) :=
  (scripts.find? fun s ↦ s.code == name || s.name == name).map (·.chars.contains)

/-- The class of a binary property. -/
def binaryClass? (name : String) : Option (Char → Bool) :=
  [(["alphabetic", "alpha"], isAlphabetic), (["lowercase", "lower"], isLowercase),
    (["uppercase", "upper"], isUppercase), (["whitespace", "wspace", "space"], isWhiteSpace),
    (["cased"], isCased), (["caseignorable", "ci"], isCaseIgnorable),
    (["graphemeextend", "grext"], isGraphemeExtend),
    (["joincontrol", "joinc"], joinControl.contains),
    (["asciihexdigit", "ahex"], fun c ↦ (hexDigit? c).isSome)].findSome? fun (names, p) ↦
      if names.contains name then some p else none

/-- The class named by `\p` with one name: a binary property, a category or a script. -/
def propertyClass? (name : List Char) : Option (Char → Bool) :=
  let name := normalizeName name
  let binary := if ["cf", "sc", "lc"].contains name then none else binaryClass? name
  binary <|> categoryClass? name <|> scriptClass? name

/-- The class named by `\p` with a property and a value. -/
def propertyValueClass? (property value : List Char) : Option (Char → Bool) :=
  let value := normalizeName value
  match normalizeName property with
  | "gc" | "generalcategory" => categoryClass? value
  | "sc" | "script" | "scx" | "scriptextensions" => scriptClass? value
  | _ => none

/-- The bracketed ASCII classes. -/
def asciiClass? (name : String) : Option (Char → Bool) :=
  match name with
  | "alnum" => some Char.isAlphanum
  | "alpha" => some Char.isAlpha
  | "ascii" => some fun c ↦ c.toNat < 0x80
  | "blank" => some fun c ↦ c = '\t' || c = ' '
  | "cntrl" => some fun c ↦ c.toNat < 0x20 || c.toNat = 0x7F
  | "digit" => some Char.isDigit
  | "graph" => some fun c ↦ 0x21 ≤ c.toNat && c.toNat ≤ 0x7E
  | "lower" => some Char.isLower
  | "print" => some fun c ↦ 0x20 ≤ c.toNat && c.toNat ≤ 0x7E
  | "punct" => some fun c ↦ 0x21 ≤ c.toNat && c.toNat ≤ 0x7E && !c.isAlphanum
  | "space" => some fun c ↦ c = ' ' || (0x09 ≤ c.toNat && c.toNat ≤ 0x0D)
  | "upper" => some Char.isUpper
  | "word" => some fun c ↦ c.isAlphanum || c = '_'
  | "xdigit" => some fun c ↦ (hexDigit? c).isSome
  | _ => none

/-- The class of all characters that agree up to case with a member. -/
def foldClass (unicode : Bool) (p : Char → Bool) (c : Char) : Bool :=
  if unicode then (caseVariants c).any p else p c || p c.toLower || p c.toUpper

end Tabular.Pattern
