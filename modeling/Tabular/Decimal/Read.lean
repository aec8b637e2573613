import Tabular.Binary.Rounding
import Tabular.FixedInt

/-!
# Reading numbers from text

The texts that a text column may hold for a number. An integer is one optional sign and ASCII
digits. A floating-point number adds a fraction and an exponent, and the words `nan`, `inf` and
`infinity` in any case. Blanks are never skipped, and a text that is not wholly a number is none.
-/

namespace Tabular

/-- The value of a run of ASCII digits. -/
def digitsValue (ds : List Char) : Nat :=
  ds.foldl (fun n c ↦ 10 * n + (c.toNat - '0'.toNat)) 0

/-- Splits off one leading sign; `true` for a minus. -/
def splitSign : List Char → Bool × List Char
  | '-' :: rest => (true, rest)
  | '+' :: rest => (false, rest)
  | rest => (false, rest)

/-- The longest leading run of ASCII digits, and the rest. -/
def spanDigits (cs : List Char) : List Char × List Char :=
  (cs.takeWhile Char.isDigit, cs.dropWhile Char.isDigit)

/-- The integer written by a text: an optional sign and at least one digit. -/
def readInt? (s : String) : Option Int :=
  let (negative, rest) := splitSign s.toList
  let (ds, tail) := spanDigits rest
  if ds.isEmpty || !tail.isEmpty then none
  else some (if negative then -(digitsValue ds : Int) else digitsValue ds)

/-- The integer of type `t` written by a text. -/
def FixedInt.read? (t : IntType) (s : String) : Option (FixedInt t) :=
  (readInt? s).bind (FixedInt.ofInt? t)

/-- The exponent part `e±ddd` and nothing after it, or nothing at all. -/
def readExponent? : List Char → Option Int
  | [] => some 0
  | c :: rest =>
    if c = 'e' ∨ c = 'E' then
      let (negative, rest) := splitSign rest
      let (ds, tail) := spanDigits rest
      if ds.isEmpty || !tail.isEmpty then none
      else some (if negative then -(digitsValue ds : Int) else digitsValue ds)
    else none

/-- The floating-point number written by a text, correctly rounded. -/
def Binary.read? (t : FloatType) (s : String) : Option (Binary t) :=
  let (negative, rest) := splitSign s.toList
  let word := String.ofList (rest.map Char.toLower)
  if word = "nan" then some (Binary.nan negative)
  else if word = "inf" ∨ word = "infinity" then some (Binary.inf negative)
  else
    let (whole, rest) := spanDigits rest
    let (fraction, rest) :=
      match rest with
      | '.' :: rest => spanDigits rest
      | _ => ([], rest)
    if whole.isEmpty && fraction.isEmpty then none
    else (readExponent? rest).map fun e ↦
      Binary.ofDecimal negative (digitsValue (whole ++ fraction)) (e - fraction.length)

end Tabular
