import Tabular.Text.Quoted
import Mathlib.Data.List.TakeWhile

/-!
# Quoted text is read back

Quoted text shows where it ends and what it stands for: a quote inside it is escaped, and so is the
character that escapes. `Text.readChar` reads one character off its written form, and what is
written for a character reads as that character (`Text.readChar_quoteChar`), with whatever is
written after it left over.

From this a text can be told from any other by induction along its characters. Quoted texts with
something after them are equal only if the texts are, and what comes after
(`Text.quoted_append_inj`): a quote is read as the end, and no character is written as a quote.
-/

namespace Tabular

namespace Unicode

/-- Whether a character is a hexadecimal digit. -/
def isHexDigit (c : Char) : Bool := (hexDigit? c).isSome

/-- A hexadecimal digit has its value. -/
theorem hexDigit?_digitChar : ∀ d < 16, hexDigit? d.digitChar = some d := by
  decide

/-- One digit more adds sixteen times what was there. -/
theorem hexValue_append_digit (cs : List Char) {d : Nat} (hd : d < 16) :
    hexValue (cs ++ [d.digitChar]) = 16 * hexValue cs + d := by
  rw [hexValue, List.foldl_append, List.foldl_cons, List.foldl_nil, hexDigit?_digitChar d hd]
  rfl

/-- The digits of a number are digits, and have the number as their value. -/
theorem hexValue_toDigits (n : Nat) :
    (∀ c ∈ Nat.toDigits 16 n, isHexDigit c = true) ∧ hexValue (Nat.toDigits 16 n) = n := by
  induction n using Nat.strongRecOn with
  | ind n ih =>
    have hdigit {d : Nat} (hd : d < 16) : isHexDigit d.digitChar = true := by
      rw [isHexDigit, hexDigit?_digitChar d hd, Option.isSome_some]
    rw [Nat.toDigits_eq_if (by decide)]
    split
    · next hn =>
      refine ⟨fun c hc ↦ ?_, ?_⟩
      · rw [List.mem_singleton.1 hc]
        exact hdigit hn
      · exact (hexValue_append_digit [] hn).trans (by rw [hexValue, List.foldl_nil]; omega)
    · next hn =>
      obtain ⟨hdigits, hvalue⟩ := ih (n / 16) (by omega)
      have hmod : n % 16 < 16 := Nat.mod_lt _ (by decide)
      refine ⟨fun c hc ↦ ?_, ?_⟩
      · rcases List.mem_append.1 hc with hc | hc
        · exact hdigits c hc
        · rw [List.mem_singleton.1 hc]
          exact hdigit hmod
      · rw [hexValue_append_digit _ hmod, hvalue, Nat.div_add_mod]

end Unicode

namespace Text

open Unicode

/-- The character that a written form begins with and what follows it; nothing where the quote
closes. -/
def readChar : List Char → Option (Char × List Char)
  | [] => none
  | '"' :: _ => none
  | '\\' :: '0' :: cs => some (Char.ofNat 0, cs)
  | '\\' :: 't' :: cs => some ('\t', cs)
  | '\\' :: 'r' :: cs => some ('\r', cs)
  | '\\' :: 'n' :: cs => some ('\n', cs)
  | '\\' :: 'u' :: '\x7b' :: cs =>
    some (Char.ofNat (hexValue (cs.takeWhile isHexDigit)), (cs.dropWhile isHexDigit).tail)
  | '\\' :: c :: cs => some (c, cs)
  | c :: cs => some (c, cs)

/-- A code point in hexadecimal is read back. -/
theorem readChar_codePoint (c : Char) (x : List Char) :
    readChar (['\\', 'u', '\x7b'] ++ hexDigits c.toNat ++ ['\x7d'] ++ x) = some (c, x) := by
  obtain ⟨hdigits, hvalue⟩ := hexValue_toDigits c.toNat
  have hclose : isHexDigit '\x7d' = false := rfl
  simp only [hexDigits, List.append_assoc, List.cons_append, List.nil_append, readChar,
    List.takeWhile_append_of_pos hdigits, List.dropWhile_append_of_pos hdigits,
    List.takeWhile_cons, List.dropWhile_cons, hclose, Bool.false_eq_true, if_false,
    List.append_nil, hvalue, Char.ofNat_toNat, List.tail_cons]

/-- **What is written for a character reads as that character.** -/
theorem readChar_quoteChar (c : Char) (x : List Char) :
    readChar (quoteChar c ++ x) = some (c, x) := by
  unfold quoteChar
  split
  · next h => rw [← Char.ofNat_toNat c, h]; rfl
  split
  · next h => rw [h]; rfl
  split
  · next h => rw [h]; rfl
  split
  · next h => rw [h]; rfl
  split
  · next h => rw [h]; rfl
  split
  · next h => rw [h]; rfl
  split
  · exact readChar_codePoint c x
  -- Every other character stands for itself, since the quote and the backslash are dealt with.
  · next hquote hescape _ =>
    rw [List.cons_append, List.nil_append]
    unfold readChar
    split <;> simp_all

/-- Characters are read one by one, up to the quote that closes them. -/
theorem flatMap_quoteChar_append_inj {cs ds x y : List Char}
    (h : cs.flatMap quoteChar ++ '"' :: x = ds.flatMap quoteChar ++ '"' :: y) :
    cs = ds ∧ x = y := by
  -- the first characters are read off both sides
  induction cs generalizing ds with
  | nil =>
    cases ds with
    | nil => exact ⟨rfl, (List.cons.inj h).2⟩
    | cons d ds =>
      have hread := congrArg readChar h
      rw [List.flatMap_cons, List.append_assoc, readChar_quoteChar] at hread
      cases hread
  | cons c cs ih =>
    cases ds with
    | nil =>
      have hread := congrArg readChar h
      rw [List.flatMap_cons, List.append_assoc, readChar_quoteChar] at hread
      cases hread
    | cons d ds =>
      have hread := congrArg readChar h
      rw [List.flatMap_cons, List.flatMap_cons, List.append_assoc, List.append_assoc,
        readChar_quoteChar, readChar_quoteChar] at hread
      injection hread with hread
      injection hread with hchar hrest
      obtain ⟨hchars, hafter⟩ := ih hrest
      exact ⟨by rw [hchar, hchars], hafter⟩

/-- A quoted text is its characters between quotes, each as it is written. -/
theorem toList_quoted (s : String) :
    (quoted s).toList = '"' :: s.toList.flatMap quoteChar ++ ['"'] := by
  rw [quoted, String.toList_ofList]
  rfl

/-- **Quoted text is told from any other**, and from what is written after it. -/
theorem quoted_append_inj {s t : String} {x y : List Char}
    (h : (quoted s).toList ++ x = (quoted t).toList ++ y) : s = t ∧ x = y := by
  rw [toList_quoted, toList_quoted, List.append_assoc, List.append_assoc] at h
  injection h with _ h
  obtain ⟨hchars, hafter⟩ := flatMap_quoteChar_append_inj h
  exact ⟨String.toList_inj.1 hchars, hafter⟩

end Text

end Tabular
