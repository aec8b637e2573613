import Tabular.Power
import Tabular.Unicode.CaseMap

/-!
# Editing text

Cutting, trimming, searching and replacing, on the characters of a text.
-/

namespace Tabular.Text

/-! ### Windows -/

/-- A position counted from the end when negative, moved into `0 … n`. -/
def resolvePosition (n : Nat) (pos : Int) : Nat :=
  if pos < 0 then (pos + n).toNat else Nat.min pos.toNat n

/-- The characters from position `start` up to `stop`, or to the end. -/
def slice (start : Int) (stop : Option Int) (s : String) : String :=
  let cs := s.toList
  let b := resolvePosition cs.length start
  let e := (stop.map (resolvePosition cs.length)).getD cs.length
  String.ofList ((cs.drop b).take (e - b))

/-- The least 64-bit integer that is too large. -/
def positionLimit : Int := twoTo 63

/-- The positions `(start, stop)` of a window given by its offset and length. A window that starts
before the end and reaches past it runs to the end. -/
def sliceBounds (start : Int) (length : Option Int) : Int × Option Int :=
  match length with
  | none => (start, none)
  | some len =>
    if len = 0 then (start, some start)
    else if start < 0 ∧ -start ≤ len then (start, none)
    else (start, some (max (-positionLimit) (min (positionLimit - 1) (start + len))))

/-! ### Trimming -/

/-- The ends that trimming works on. -/
inductive Side where
  | both
  | start
  | finish
deriving DecidableEq, Repr

/-- Drops from the ends of a text the characters that `hit` holds of. -/
def trimWhere (hit : Char → Bool) (side : Side) (cs : List Char) : List Char :=
  let front := if side = .finish then cs else cs.dropWhile hit
  if side = .start then front else (front.reverse.dropWhile hit).reverse

/-- Drops the characters of `chars` from the ends of a text, or white space. -/
def strip (chars : Option String) (side : Side) (s : String) : String :=
  let hit := match chars with
    | some set => fun c ↦ set.toList.contains c
    | none => Unicode.isWhiteSpace
  String.ofList (trimWhere hit side s.toList)

/-! ### Searching -/

/-- Whether `needle` occurs in a text. -/
def occursIn (needle : List Char) : List Char → Bool
  | [] => needle.isEmpty
  | c :: cs => needle.isPrefixOf (c :: cs) || occursIn needle cs

/-- How a text is compared with a pattern. -/
inductive MatchKind where
  | contains
  | startsWith
  | endsWith
deriving DecidableEq, Repr

/-- Whether `text` contains, starts with or ends with `needle`. -/
def MatchKind.holds (kind : MatchKind) (text needle : String) : Bool :=
  match kind with
  | contains => occursIn needle.toList text.toList
  | startsWith => needle.toList.isPrefixOf text.toList
  | endsWith => needle.toList.isSuffixOf text.toList

/-! ### Replacing -/

/-- Replaces, from left to right, what a rule `(target, replacement)` matches; at each place the
first matching rule wins, and at most `budget` matches are replaced. `skip` counts the characters
of the last match that are still to be passed over. -/
def substitute (rules : List (List Char × List Char)) : Nat → Nat → List Char → List Char
  | _, _, [] => []
  | budget, skip + 1, _ :: cs => substitute rules budget skip cs
  | 0, 0, c :: cs => c :: substitute rules 0 0 cs
  | budget + 1, 0, c :: cs =>
    match rules.find? fun rule ↦ rule.1.isPrefixOf (c :: cs) with
    | some (target, replacement) =>
      replacement ++ substitute rules budget (target.length - 1) cs
    | none => c :: substitute rules (budget + 1) 0 cs

/-- Replaces up to `count` occurrences of `target`, all when `count` is negative. -/
def replace (target replacement : String) (count : Int) (s : String) : String :=
  let cs := s.toList
  let budget := if count < 0 then cs.length else count.toNat
  String.ofList (substitute [(target.toList, replacement.toList)] budget 0 cs)

/-- Replaces every target by its replacement in one pass. -/
def replaceMany (rules : List (String × String)) (s : String) : String :=
  let cs := s.toList
  String.ofList (substitute (rules.map fun r ↦ (r.1.toList, r.2.toList)) cs.length 0 cs)

end Tabular.Text
