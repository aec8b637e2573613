import Tabular.Unicode.Property

/-!
# Regular expressions and their matches

A `Regex` is built from character classes, assertions about a position, concatenation,
alternation and repetition. Its meaning is `ends`: the positions at which a match that starts at a
given position can end. Searching asks whether some position starts a match, so greediness and
groups play no part.

Repetition without an upper bound collects positions round by round. A text of `n` characters has
`n + 1` positions, so after `n + 1` rounds no round adds a new one.
-/

namespace Tabular.Pattern

/-- A condition on a position between characters. -/
inductive Assertion where
  | textStart
  | textEnd
  /-- After a line break or at the start; `crlf` takes carriage returns for line breaks too. -/
  | lineStart (crlf : Bool)
  /-- Before a line break or at the end. -/
  | lineEnd (crlf : Bool)
  /-- Between a word character and another one; `unicode` chooses the word characters. -/
  | wordBoundary (unicode : Bool)
  | notWordBoundary (unicode : Bool)
  | wordStart (unicode : Bool)
  | wordEnd (unicode : Bool)
  /-- Not after a word character. -/
  | wordStartHalf (unicode : Bool)
  /-- Not before a word character. -/
  | wordEndHalf (unicode : Bool)
deriving DecidableEq, Repr

/-- A regular expression. -/
inductive Regex where
  | empty
  | chars (p : Char → Bool)
  | assertion (a : Assertion)
  | concat (r s : Regex)
  | alt (r s : Regex)
  /-- At least `least` times, and at most `most` times if given. -/
  | repetition (r : Regex) (least : Nat) (most : Option Nat)

/-- ASCII word characters. -/
def isAsciiWord (c : Char) : Bool := c.isAlphanum || c = '_'

namespace Assertion

/-- Whether the assertion holds between the characters `before` and `after`. -/
def holds (a : Assertion) (before after : Option Char) : Bool :=
  let word (unicode : Bool) (c : Option Char) : Bool :=
    c.any (if unicode then Unicode.isWord else isAsciiWord)
  match a with
  | textStart => before.isNone
  | textEnd => after.isNone
  | lineStart false => before.isNone || before == some '\n'
  | lineEnd false => after.isNone || after == some '\n'
  | lineStart true =>
    before.isNone || before == some '\n' || (before == some '\r' && after != some '\n')
  | lineEnd true =>
    after.isNone || after == some '\r' || (after == some '\n' && before != some '\r')
  | wordBoundary u => word u before != word u after
  | notWordBoundary u => word u before == word u after
  | wordStart u => !word u before && word u after
  | wordEnd u => word u before && !word u after
  | wordStartHalf u => !word u before
  | wordEndHalf u => !word u after

end Assertion

/-- One more round of a search: the new positions that follow one of the positions `frontier`. -/
def expand (step : Nat → List Nat) (seen frontier : List Nat) : List Nat :=
  ((frontier.flatMap step).eraseDups).filter fun i ↦ !seen.contains i

/-- The positions reached from `frontier` in at most `rounds` steps, added to `seen`. -/
def reach (step : Nat → List Nat) : Nat → List Nat → List Nat → List Nat
  | 0, seen, _ => seen
  | rounds + 1, seen, frontier =>
    let fresh := expand step seen frontier
    if fresh.isEmpty then seen else reach step rounds (seen ++ fresh) fresh

/-- The positions reached in exactly `rounds` steps. -/
def steps (step : Nat → List Nat) : Nat → List Nat → List Nat
  | 0, positions => positions
  | rounds + 1, positions => steps step rounds (positions.flatMap step).eraseDups

namespace Regex

/-- The positions where a match of `r` that starts at `i` can end. -/
def ends (text : Array Char) : Regex → Nat → List Nat
  | empty, i => [i]
  | chars p, i => if text[i]?.any p then [i + 1] else []
  | assertion a, i =>
    let before := if i = 0 then none else text[i - 1]?
    if a.holds before text[i]? then [i] else []
  | concat r s, i => ((ends text r i).flatMap (ends text s)).eraseDups
  | alt r s, i => (ends text r i ++ ends text s i).eraseDups
  | repetition r least most, i =>
    let required := steps (ends text r) least [i]
    let rounds := match most with
      | none => text.size + 1
      | some m => Nat.min (m - least) (text.size + 1)
    reach (ends text r) rounds required required

/-- Whether some part of the text matches. -/
def isMatch (r : Regex) (s : String) : Bool :=
  let text := s.toList.toArray
  (List.range (text.size + 1)).any fun i ↦ !(ends text r i).isEmpty

end Regex

end Tabular.Pattern
