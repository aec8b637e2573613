import Tabular.Pattern.Basic
import Tabular.Pattern.Property
import Tabular.Power

/-!
# Reading patterns

The text form of regular expressions. A pattern that is not well formed, that asks for
look-around or back-references, or that would grow too large when its repetitions are written
out, is rejected; why does not matter to callers.

The reader walks the characters of the pattern. Its `fuel` starts above the length of the pattern
and falls with every call, so it never runs out on a pattern that is being consumed.
-/

namespace Tabular.Pattern

/-- The options in force at a place of the pattern. -/
structure Flags where
  ignoreCase : Bool := false
  multiLine : Bool := false
  dotAll : Bool := false
  unicode : Bool := true
  crlf : Bool := false
  verbose : Bool := false

/-- Deepest allowed nesting of groups, classes and repetitions. -/
def nestLimit : Nat := 250

/-- Largest allowed size of the machine for a pattern, in states. -/
def sizeLimit : Nat := 327680

/-- Something read, with the rest of the pattern. -/
abbrev Parsed (α : Type) := α × List Char

/-- The rest after a comment up to the end of its line. -/
def skipComment : List Char → List Char
  | [] => []
  | c :: cs => if c = '\n' then cs else skipComment cs

/-- The rest after blanks and comments, which only the verbose form skips. -/
def skipBlanks (flags : Flags) (cs : List Char) : List Char :=
  if flags.verbose then go cs.length cs else cs
where
  /-- Skips one blank or comment at a time. -/
  go : Nat → List Char → List Char
    | 0, cs => cs
    | _, [] => []
    | n + 1, c :: cs =>
      if Unicode.isWhiteSpace c then go n cs
      else if c = '#' then go n (skipComment cs)
      else c :: cs

/-! ### Escapes -/

/-- What an escape, or a plain character, stands for. -/
inductive Atom where
  | literal (c : Char)
  | charClass (p : Char → Bool)
  | assertion (a : Assertion)

/-- A class, complemented if asked. Outside Unicode mode a complement could cut characters apart
and is rejected. -/
def complementIf (flags : Flags) (negated : Bool) (p : Char → Bool) : Option (Char → Bool) :=
  if !negated then some p
  else if flags.unicode then some fun c ↦ !p c
  else none

/-- The character with a code point, unless there is none. -/
def charOfCode? (n : Nat) : Option Char :=
  if n.isValidChar then some (Char.ofNat n) else none

/-- A code point between braces. -/
def readBracedCode (cs : List Char) : Option (Parsed Char) :=
  match cs.span (· ≠ '\x7d') with
  | (digits, _ :: rest) =>
    if digits.isEmpty || digits.any (fun c ↦ (Unicode.hexDigit? c).isNone) then none
    else (charOfCode? (Unicode.hexValue digits)).map (·, rest)
  | _ => none

/-- A code point of exactly `n` hexadecimal digits, or of any number between braces. -/
def readCode (n : Nat) (cs : List Char) : Option (Parsed Char) :=
  match cs with
  | '\x7b' :: rest => readBracedCode rest
  | _ =>
    let digits := cs.take n
    if digits.length < n || digits.any (fun c ↦ (Unicode.hexDigit? c).isNone) then none
    else (charOfCode? (Unicode.hexValue digits)).map (·, cs.drop n)

/-- A property name after `\p`: one letter, or a name, a value and how they relate in braces. -/
def readProperty (cs : List Char) : Option (Parsed (Bool × (Char → Bool))) :=
  match cs with
  | '\x7b' :: rest =>
    match rest.span (· ≠ '\x7d') with
    | (body, _ :: rest) => (readBody body).map (·, rest)
    | _ => none
  | '\\' :: _ => none
  | c :: rest => (propertyClass? [c]).map fun p ↦ ((false, p), rest)
  | [] => none
where
  /-- The text between the braces. -/
  readBody (body : List Char) : Option (Bool × (Char → Bool)) :=
    match body.span fun c ↦ c ≠ '=' ∧ c ≠ ':' ∧ c ≠ '!' with
    | (property, '!' :: '=' :: value) => (propertyValueClass? property value).map (true, ·)
    | (property, '=' :: value) | (property, ':' :: value) =>
      (propertyValueClass? property value).map (false, ·)
    | _ => (propertyClass? body).map (false, ·)

/-- The condition after `\b`, which may be spelled out in braces. -/
def readBoundary (flags : Flags) (cs : List Char) : Option (Parsed Assertion) :=
  let plain := some (.wordBoundary flags.unicode, cs)
  match cs with
  | '\x7b' :: rest =>
    match rest.span fun c ↦ c.isAlpha ∨ c = '-' with
    | ([], []) => none
    | ([], _) => plain
    | (name, '\x7d' :: rest) =>
      match String.ofList name with
      | "start" => some (.wordStart flags.unicode, rest)
      | "end" => some (.wordEnd flags.unicode, rest)
      | "start-half" => some (.wordStartHalf flags.unicode, rest)
      | "end-half" => some (.wordEndHalf flags.unicode, rest)
      | _ => none
    | _ => none
  | _ => plain

/-- The escape after a backslash. Outside Unicode mode two hexadecimal digits name a byte, which
must be a character by itself. -/
def readEscape (flags : Flags) (cs : List Char) : Option (Parsed Atom) := do
  let (c, rest) ← match cs with
    | [] => none
    | c :: rest => some (c, rest)
  let perl (negated : Bool) (p : Char → Bool) : Option (Parsed Atom) :=
    (complementIf flags negated p).map fun p ↦ (.charClass p, rest)
  let digit := if flags.unicode then Unicode.isDigit else Char.isDigit
  let space := if flags.unicode then Unicode.isWhiteSpace else
    fun c ↦ c = ' ' || (0x09 ≤ c.toNat && c.toNat ≤ 0x0D)
  let word := if flags.unicode then Unicode.isWord else isAsciiWord
  match c with
  | 'a' => some (.literal (Char.ofNat 7), rest)
  | 'f' => some (.literal (Char.ofNat 12), rest)
  | 't' => some (.literal '\t', rest)
  | 'n' => some (.literal '\n', rest)
  | 'r' => some (.literal '\r', rest)
  | 'v' => some (.literal (Char.ofNat 11), rest)
  | 'A' => some (.assertion .textStart, rest)
  | 'z' => some (.assertion .textEnd, rest)
  | 'b' => (readBoundary flags rest).map fun (a, rest) ↦ (.assertion a, rest)
  | 'B' => some (.assertion (.notWordBoundary flags.unicode), rest)
  | '<' => some (.assertion (.wordStart flags.unicode), rest)
  | '>' => some (.assertion (.wordEnd flags.unicode), rest)
  | 'd' => perl false digit
  | 'D' => perl true digit
  | 's' => perl false space
  | 'S' => perl true space
  | 'w' => perl false word
  | 'W' => perl true word
  | 'x' =>
    -- Outside Unicode mode two hexadecimal digits name a byte, and a byte above 127 is no
    -- character.
    let namesByte := !flags.unicode && rest.head? != some '\x7b'
    (readCode 2 rest).bind fun (c, rest) ↦
      if namesByte && 0x80 ≤ c.toNat then none else some (.literal c, rest)
  | 'u' => (readCode 4 rest).map fun (c, rest) ↦ (.literal c, rest)
  | 'U' => (readCode 8 rest).map fun (c, rest) ↦ (.literal c, rest)
  | 'p' | 'P' =>
    if !flags.unicode then none
    else
      let ((negated, p), rest) ← readProperty rest
      -- Case is folded before the complement is taken, so that `\P` leaves out every case.
      let p := if flags.ignoreCase then foldClass true p else p
      let negated := negated != (c == 'P')
      some (.charClass fun c ↦ p c != negated, rest)
  | _ =>
    if c.toNat < 0x80 && !c.isAlphanum then some (.literal c, rest) else none

/-! ### Bracketed classes -/

/-- How two sides of a class combine. -/
inductive ClassOp where
  | intersection
  | difference
  | symmetricDifference

/-- The combination of two classes. -/
def ClassOp.apply (op : ClassOp) (p q : Char → Bool) (c : Char) : Bool :=
  match op with
  | intersection => p c && q c
  | difference => p c && !q c
  | symmetricDifference => p c != q c

/-- A bracketed ASCII class such as `[:alpha:]`, after its first bracket. -/
def readAsciiClass (flags : Flags) (cs : List Char) : Option (Parsed (Char → Bool)) :=
  match cs with
  | ':' :: rest =>
    let (negated, rest) := match rest with
      | '^' :: rest => (true, rest)
      | _ => (false, rest)
    match rest.span (· ≠ ':') with
    | (name, ':' :: ']' :: rest) => do
      let p ← asciiClass? (String.ofList name)
      let p ← complementIf flags negated p
      some (p, rest)
    | _ => none
  | _ => none

/-- One member of a class, not yet known to be a range. -/
def readClassAtom (flags : Flags) (cs : List Char) : Option (Parsed Atom) :=
  match cs with
  | '\\' :: rest => readEscape flags rest
  | c :: rest => some (.literal c, rest)
  | [] => none

/-- A member of a class: a character, a range or a class escape. -/
def readClassRange (flags : Flags) (cs : List Char) : Option (Parsed (Char → Bool)) := do
  let (first, rest) ← readClassAtom flags cs
  let rest := skipBlanks flags rest
  let single : Option (Parsed (Char → Bool)) :=
    match first with
    | .literal c => some ((· == c), rest)
    | .charClass p => some (p, rest)
    | .assertion _ => none
  match rest with
  | [] => none
  | '-' :: after =>
    match skipBlanks flags after with
    | [] => none
    | ']' :: _ | '-' :: _ => single
    | after =>
      let (last, rest) ← readClassAtom flags after
      match first, last with
      | .literal a, .literal b =>
        if a ≤ b then some (fun c ↦ a ≤ c && c ≤ b, rest) else none
      | _, _ => none
  | _ => single

/-- The closure of a class under case, if asked. -/
def foldIf (flags : Flags) (p : Char → Bool) : Char → Bool :=
  if flags.ignoreCase then foldClass flags.unicode p else p

/-- Hyphens at the start of a class, which stand for themselves; a closing bracket in the very
first place does so too. -/
def leadingMembers (flags : Flags) (cs : List Char) : List Char × List Char :=
  match cs with
  | ']' :: rest => ([']'], skipBlanks flags rest)
  | _ => hyphens cs.length [] cs
where
  /-- Collects hyphens. -/
  hyphens : Nat → List Char → List Char → List Char × List Char
    | n + 1, found, '-' :: rest => hyphens n ('-' :: found) (skipBlanks flags rest)
    | _, found, cs => (found, cs)

/-- A class after its opening bracket. -/
def readClass (flags : Flags) : Nat → Nat → List Char → Option (Parsed (Char → Bool))
  | 0, _, _ => none
  | fuel + 1, depth, cs =>
    if nestLimit < depth then none
    else
      let cs := skipBlanks flags cs
      let (negated, cs) := match cs with
        | '^' :: rest => (true, skipBlanks flags rest)
        | _ => (false, cs)
      let (found, cs) := leadingMembers flags cs
      (members fuel depth none (fun c ↦ found.contains c) cs).bind fun (p, rest) ↦
        (complementIf flags negated (foldIf flags p)).map (·, rest)
where
  /-- The members up to the closing bracket; `pending` is what came before an operator. -/
  members : Nat → Nat → Option (ClassOp × (Char → Bool)) → (Char → Bool) → List Char →
      Option (Parsed (Char → Bool))
    | 0, _, _, _, _ => none
    | fuel + 1, depth, pending, union, cs =>
      let combined : Char → Bool :=
        match pending with
        | none => union
        | some (op, left) => op.apply (foldIf flags left) (foldIf flags union)
      match skipBlanks flags cs with
      | [] => none
      | '[' :: rest =>
        match readAsciiClass flags rest with
        | some (p, rest) => members fuel depth pending (fun c ↦ union c || p c) rest
        | none =>
          (readClass flags fuel (depth + 1) rest).bind fun (p, rest) ↦
            members fuel depth pending (fun c ↦ union c || p c) rest
      | ']' :: rest => some (combined, rest)
      | '&' :: '&' :: rest =>
        members fuel depth (some (.intersection, combined)) (fun _ ↦ false) rest
      | '-' :: '-' :: rest => members fuel depth (some (.difference, combined)) (fun _ ↦ false) rest
      | '~' :: '~' :: rest =>
        members fuel depth (some (.symmetricDifference, combined)) (fun _ ↦ false) rest
      | cs =>
        (readClassRange flags cs).bind fun (p, rest) ↦
          members fuel depth pending (fun c ↦ union c || p c) rest

/-! ### Groups and repetitions -/

/-- A letter of a flag group. -/
def Flags.set? (flags : Flags) (value : Bool) : Char → Option Flags
  | 'i' => some { flags with ignoreCase := value }
  | 'm' => some { flags with multiLine := value }
  | 's' => some { flags with dotAll := value }
  | 'U' => some flags
  | 'u' => some { flags with unicode := value }
  | 'R' => some { flags with crlf := value }
  | 'x' => some { flags with verbose := value }
  | _ => none

/-- The letters of a flag group up to `:` or `)`. Letters after `-` are turned off; none may be
repeated, and `-` must be followed by one. -/
def readFlags (flags : Flags) (seen : List Char) (afterMinus : Bool) :
    List Char → Option (Parsed (Flags × Bool × Char))
  | [] => none
  | c :: rest =>
    if c = ':' ∨ c = ')' then
      if afterMinus then none else some ((flags, !seen.isEmpty, c), rest)
    else if seen.contains c then none
    else if c = '-' then readFlags flags (c :: seen) true rest
    else do
      let flags ← flags.set? (!seen.contains '-') c
      readFlags flags (c :: seen) false rest

/-- A group name up to `>`. -/
def readGroupName (cs : List Char) : Option (Parsed String) :=
  match cs.span (· ≠ '>') with
  | (first :: others, _ :: rest) =>
    let letter (c : Char) : Bool := c = '_' || Unicode.isAlphabetic c
    let other (c : Char) : Bool := letter c || c = '.' || c = '[' || c = ']' ||
      Unicode.isDigit c || Unicode.Category.letterNumber.contains c ||
      Unicode.Category.otherNumber.contains c
    if letter first && others.all other then some (String.ofList (first :: others), rest) else none
  | _ => none

/-- A decimal number with blanks around it. -/
def readCount (cs : List Char) : Option (Parsed Nat) :=
  let cs := cs.dropWhile Unicode.isWhiteSpace
  let digits := cs.takeWhile Char.isDigit
  let n := digits.foldl (fun n c ↦ 10 * n + (c.toNat - '0'.toNat)) 0
  if digits.isEmpty || twoTo 32 ≤ n then none
  else some (n, (cs.dropWhile Char.isDigit).dropWhile Unicode.isWhiteSpace)

/-- The bounds of a counted repetition, after its opening brace. -/
def readBounds (flags : Flags) (cs : List Char) : Option (Parsed (Nat × Option Nat)) := do
  let (least, rest) ← readCount (skipBlanks flags cs)
  match rest with
  | '\x7d' :: rest => some ((least, some least), rest)
  | ',' :: rest =>
    match skipBlanks flags rest with
    | '\x7d' :: rest => some ((least, none), rest)
    | rest =>
      let (most, rest) ← readCount rest
      match rest with
      | '\x7d' :: rest => if least ≤ most then some ((least, some most), rest) else none
      | _ => none
  | _ => none

/-- The expression for a literal character. -/
def literalRegex (flags : Flags) (c : Char) : Regex := .chars (foldIf flags (· == c))

/-- The expression for the dot; outside Unicode mode it could cut characters apart. -/
def dotRegex? (flags : Flags) : Option Regex :=
  if !flags.unicode then none
  else if flags.dotAll then some (.chars fun _ ↦ true)
  else if flags.crlf then some (.chars fun c ↦ c ≠ '\n' && c ≠ '\r')
  else some (.chars (· ≠ '\n'))

/-- The expression for an escape. -/
def Atom.toRegex (flags : Flags) : Atom → Regex
  | .literal c => literalRegex flags c
  | .charClass p => .chars p
  | .assertion a => .assertion a

/-- An expression being read, with what it weighs in states and how deep it nests. -/
structure Part where
  regex : Regex
  weight : Nat
  depth : Nat
  /-- Flag groups and the empty expression cannot be repeated. -/
  repeatable : Bool

/-- The part for a single character class or assertion. -/
def Part.leaf (r : Regex) (weight : Nat) : Part := ⟨r, weight, 0, true⟩

/-- The concatenation of parts given in reverse. -/
def concatParts (parts : List Part) : Part :=
  let parts := parts.filter (·.repeatable)
  match parts with
  | [] => ⟨.empty, 1, 0, false⟩
  | [p] => p
  | p :: rest =>
    rest.foldl
      (fun acc q ↦ ⟨.concat q.regex acc.regex, acc.weight + q.weight, max acc.depth q.depth, true⟩)
      { p with depth := p.depth + 1 }

/-- The alternation of branches given in reverse. -/
def altParts (branches : List Part) : Part :=
  match branches with
  | [] => ⟨.empty, 1, 0, false⟩
  | [p] => p
  | p :: rest =>
    rest.foldl
      (fun acc q ↦ ⟨.alt q.regex acc.regex, acc.weight + q.weight + 1, max acc.depth q.depth, true⟩)
      { p with depth := p.depth + 1, repeatable := true }

/-- The repetition of the last part read. -/
def repeatLast (least : Nat) (most : Option Nat) : List Part → Option (List Part)
  | p :: rest =>
    if p.repeatable && p.depth < nestLimit then
      let copies := max 1 (most.getD (least + 1))
      some (⟨.repetition p.regex least most, p.weight * copies + 1, p.depth + 1, true⟩ :: rest)
    else none
  | [] => none

/-- The rest after the mark of a lazy repetition. -/
def skipLazy : List Char → List Char
  | '?' :: rest => rest
  | rest => rest

/-- The weight of a character written in UTF-8. -/
def charWeight (flags : Flags) (c : Char) : Nat := if flags.ignoreCase then 2 else c.utf8Size

/-- What has been read of a group: its branches, the parts of the current branch, the names of
groups so far and the flags in force. -/
structure GroupState where
  branches : List Part := []
  parts : List Part := []
  names : List String
  flags : Flags

/-- Reads alternatives up to the end of the pattern or the closing parenthesis of a group. -/
def readGroup : Nat → Nat → GroupState → List Char → Option (Parsed (Part × List String))
  | 0, _, _, _ => none
  | fuel + 1, depth, st, cs =>
    let flags := st.flags
    -- Branches and parts are kept with the last one first.
    let finish : Part := altParts (concatParts st.parts :: st.branches)
    let push (p : Part) (rest : List Char) : Option (Parsed (Part × List String)) :=
      readGroup fuel depth { st with parts := p :: st.parts } rest
    let count (least : Nat) (most : Option Nat) (rest : List Char) :
        Option (Parsed (Part × List String)) :=
      (repeatLast least most st.parts).bind fun parts ↦
        readGroup fuel depth { st with parts } rest
    match skipBlanks flags cs with
    | [] => if depth = 0 then some ((finish, st.names), []) else none
    | ')' :: rest =>
      if depth = 0 then none
      -- Only an unmatched bracket is an error here; the group may be repeated as a whole.
      else some (({ finish with depth := finish.depth + 1, repeatable := true }, st.names), rest)
    | '|' :: rest =>
      readGroup fuel depth
        { st with branches := concatParts st.parts :: st.branches, parts := [] } rest
    | '*' :: rest => count 0 none (skipLazy rest)
    | '+' :: rest => count 1 none (skipLazy rest)
    | '?' :: rest => count 0 (some 1) (skipLazy rest)
    | '\x7b' :: rest =>
      if st.parts.isEmpty then none
      else (readBounds flags rest).bind fun ((least, most), rest) ↦
        count least most (skipLazy (skipBlanks flags rest))
    | '[' :: rest =>
      (readClass flags fuel 1 rest).bind fun (p, rest) ↦ push (.leaf (.chars p) 8) rest
    | '.' :: rest => (dotRegex? flags).bind fun r ↦ push (.leaf r 11) rest
    | '^' :: rest =>
      let a := if flags.multiLine then .lineStart flags.crlf else .textStart
      push (.leaf (.assertion a) 1) rest
    | '$' :: rest =>
      let a := if flags.multiLine then .lineEnd flags.crlf else .textEnd
      push (.leaf (.assertion a) 1) rest
    | '\\' :: rest =>
      (readEscape flags rest).bind fun (atom, rest) ↦
        let weight := match atom with
          | .literal c => charWeight flags c
          | .charClass _ => 500
          | .assertion _ => 1
        push (.leaf (atom.toRegex flags) weight) rest
    | '(' :: rest =>
      let rest := skipBlanks flags rest
      let inner (names : List String) (flags : Flags) (rest : List Char) :
          Option (Parsed (Part × List String)) :=
        if nestLimit ≤ depth then none
        else
          (readGroup fuel (depth + 1) { names, flags } rest).bind fun ((p, names), rest) ↦
            readGroup fuel depth { st with parts := p :: st.parts, names } rest
      let named (rest : List Char) : Option (Parsed (Part × List String)) :=
        (readGroupName rest).bind fun (name, rest) ↦
          if st.names.contains name then none else inner (name :: st.names) flags rest
      match rest with
      -- Look-around needs more than one pass over the text, and is refused.
      | '?' :: '=' :: _ | '?' :: '!' :: _ | '?' :: '<' :: '=' :: _ | '?' :: '<' :: '!' :: _ => none
      | '?' :: 'P' :: '<' :: rest => named rest
      | '?' :: '<' :: rest => named rest
      | '?' :: rest =>
        (readFlags flags [] false rest).bind fun ((newFlags, any, close), rest) ↦
          if close = ':' then inner st.names newFlags rest
          else if !any then none
          -- Flags without a colon hold for the rest of the enclosing group.
          else
            readGroup fuel depth
              { st with parts := ⟨.empty, 0, 0, false⟩ :: st.parts, flags := newFlags } rest
      | rest => inner st.names flags rest
    | c :: rest => push (.leaf (literalRegex flags c) (charWeight flags c)) rest

/-- The regular expression written by a pattern; nothing for a pattern that is rejected. -/
def Regex.ofPattern? (pattern : String) : Option Regex :=
  let cs := pattern.toList
  (readGroup (2 * cs.length + 2) 0 { names := [], flags := {} } cs).bind fun ((p, _), _) ↦
    if p.weight ≤ sizeLimit then some p.regex else none

end Tabular.Pattern
