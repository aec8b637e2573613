import Tabular.Decimal.Shortest

/-!
# Floating-point text

The written forms of floating-point numbers, all built on the shortest decimal that reads back.
A `FloatStyle` records the decisions of a form: between which powers of ten digits stay
positional, where ties go, and whether whole numbers keep `.0`.
-/

namespace Tabular

/-- The decisions of a written form. A number `0.d₁d₂… * 10 ^ k` is positional when
`lowest < k` and `k ≤ highest`, and scientific otherwise. -/
structure FloatStyle where
  lowest : Int
  highest : Option Int
  tie : Tie
  wholeMark : String

namespace FloatStyle

/-- The text of literals and literal columns in printed expressions. -/
def printed : FloatStyle := ⟨-4, some 16, .up, ".0"⟩

/-- The text of numbers in messages: never scientific, whole numbers bare. -/
def message : FloatStyle := ⟨-400, none, .up, ""⟩

/-- The text of values converted to a text column. -/
def column : FloatType → FloatStyle
  | .double => ⟨-5, some 16, .toEven, ".0"⟩
  | .single => ⟨-6, some 13, .toEven, ".0"⟩
  | .half => message

/-- Zeros as text. -/
def zeros (n : Nat) : String := String.ofList (List.replicate n '0')

/-- Digits `ds`, read as `0.d₁d₂… * 10 ^ k`, in positional form. -/
def positional (style : FloatStyle) (ds : String) (k : Int) : String :=
  if k ≤ 0 then "0." ++ zeros (-k).toNat ++ ds
  else if k.toNat < ds.length then
    String.ofList (ds.toList.take k.toNat) ++ "." ++ String.ofList (ds.toList.drop k.toNat)
  else ds ++ zeros (k.toNat - ds.length) ++ style.wholeMark

/-- Digits `ds`, read as `0.d₁d₂… * 10 ^ k`, in scientific form. -/
def scientific (ds : String) (k : Int) : String :=
  let exponent := "e" ++ toString (k - 1)
  match ds.toList with
  | [] => exponent
  | [d] => String.singleton d ++ exponent
  | d :: rest => String.singleton d ++ "." ++ String.ofList rest ++ exponent

/-- The written form of a number. -/
def format {t : FloatType} (style : FloatStyle) (x : Binary t) : String :=
  if x.isNan then "NaN"
  else
    let sign := if x.isNegative then "-" else ""
    if x.isInfinite then sign ++ "inf"
    else if x.isZero then sign ++ "0" ++ style.wholeMark
    else
      let d := Decimal.shortest style.tie x.abs
      let ds := toString d.digits
      let k : Int := d.exponent + ds.length
      let positionalForm := style.lowest < k &&
        match style.highest with
        | none => true
        | some h => k ≤ h
      sign ++ if positionalForm then style.positional ds k else scientific ds k

/-- The written form of a number in a column. One of half precision is written as the number of
single precision that it is. -/
def formatStored {t : FloatType} (style : FloatStyle) (x : Binary t) : String :=
  match t with
  | .half => style.format (x.convert .single)
  | _ => style.format x

end FloatStyle

end Tabular
