/-!
# Sets of characters

A `CharSet` is a list of ranges of code points. Tables write a set as lines of blank-separated
ranges in hexadecimal, such as `41-5A` or `B5`.
-/

namespace Tabular.Unicode

/-- A set of code points, as inclusive ranges. -/
structure CharSet where
  ranges : List (Nat × Nat)
deriving Repr, Inhabited

/-- The value of a hexadecimal digit. -/
def hexDigit? (c : Char) : Option Nat :=
  if '0' ≤ c ∧ c ≤ '9' then some (c.toNat - '0'.toNat)
  else if 'A' ≤ c ∧ c ≤ 'F' then some (c.toNat - 'A'.toNat + 10)
  else if 'a' ≤ c ∧ c ≤ 'f' then some (c.toNat - 'a'.toNat + 10)
  else none

/-- The value of a run of hexadecimal digits; other characters are skipped. -/
def hexValue (cs : List Char) : Nat :=
  cs.foldl (fun n c ↦ match hexDigit? c with | some d => 16 * n + d | none => n) 0

/-- The pieces of a text between the characters `sep`. -/
def splitChars (sep : Char) : List Char → List (List Char)
  | [] => [[]]
  | c :: cs =>
    if c = sep then [] :: splitChars sep cs
    else
      match splitChars sep cs with
      | [] => [[c]]
      | piece :: rest => (c :: piece) :: rest

namespace CharSet

/-- The range written by `41-5A` or `B5`. -/
def readRange (cs : List Char) : Nat × Nat :=
  match splitChars '-' cs with
  | [first, last] => (hexValue first, hexValue last)
  | _ => (hexValue cs, hexValue cs)

/-- The set written by lines of ranges. -/
def ofLines (lines : List String) : CharSet :=
  ⟨lines.flatMap fun line ↦ (splitChars ' ' line.toList).map readRange⟩

/-- Membership of a code point. -/
def containsCode (s : CharSet) (n : Nat) : Bool := s.ranges.any fun (a, b) ↦ a ≤ n && n ≤ b

/-- Membership of a character. -/
def contains (s : CharSet) (c : Char) : Bool := s.containsCode c.toNat

/-- The union of two sets. -/
def union (s t : CharSet) : CharSet := ⟨s.ranges ++ t.ranges⟩

end CharSet

end Tabular.Unicode
