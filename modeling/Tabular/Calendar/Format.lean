import Tabular.Unicode.Property

/-!
# Date and time formats

A format is text with `%` specifiers, such as `%Y-%m-%d %H:%M:%S`. `Item.listOf?` reads it into the
items that a date text is made of; a specifier that does not exist makes the whole format unusable.
-/

namespace Tabular.Calendar

/-- A numeric part of a date text. -/
inductive Field where
  | year
  | yearDiv100
  | yearMod100
  | isoYear
  | isoYearMod100
  | quarter
  | month
  | day
  /-- The week of the year, weeks starting on Sunday. -/
  | weekFromSunday
  /-- The week of the year, weeks starting on Monday. -/
  | weekFromMonday
  | isoWeek
  /-- The day of the week, Sunday being 0. -/
  | daysFromSunday
  /-- The day of the week, Monday being 1. -/
  | dayFromMonday
  | ordinal
  | hour
  | hour12
  | minute
  | second
  | nanosecond
  /-- Seconds since 1970-01-01. -/
  | timestamp
deriving DecidableEq, Repr

/-- One item of a format. -/
inductive Item where
  | literal (text : List Char)
  /-- Any amount of white space, none included. -/
  | space
  | number (field : Field)
  | shortMonth
  | longMonth
  | shortWeekday
  | longWeekday
  | amPm
  /-- A point and digits of a second, or nothing. -/
  | fraction
  /-- A point and exactly `digits` digits of a second, or nothing. -/
  | fractionOf (digits : Nat)
  /-- Exactly `digits` digits of a second without a point. -/
  | fractionDigits (digits : Nat)
  | zoneName
  /-- An offset; a permissive one may be `Z` or lack minutes. -/
  | zoneOffset (permissive : Bool)
  /-- A whole date and time with offset. -/
  | internet
deriving DecidableEq, Repr

namespace Item

/-- `HH:MM:SS`. -/
def clock : List Item :=
  [number .hour, literal [':'], number .minute, literal [':'], number .second]

/-- `MM/DD/YY`. -/
def slashDate : List Item :=
  [number .month, literal ['/'], number .day, literal ['/'], number .yearMod100]

/-- The items that a specifier letter stands for. -/
def ofLetter? : Char → Option (List Item)
  | 'A' => some [longWeekday]
  | 'B' => some [longMonth]
  | 'C' => some [number .yearDiv100]
  | 'D' | 'x' => some slashDate
  | 'F' => some [number .year, literal ['-'], number .month, literal ['-'], number .day]
  | 'G' => some [number .isoYear]
  | 'H' | 'k' => some [number .hour]
  | 'I' | 'l' => some [number .hour12]
  | 'M' => some [number .minute]
  | 'P' | 'p' => some [amPm]
  | 'R' => some [number .hour, literal [':'], number .minute]
  | 'S' => some [number .second]
  | 'T' | 'X' => some clock
  | 'U' => some [number .weekFromSunday]
  | 'V' => some [number .isoWeek]
  | 'W' => some [number .weekFromMonday]
  | 'Y' => some [number .year]
  | 'Z' => some [zoneName]
  | 'a' => some [shortWeekday]
  | 'b' | 'h' => some [shortMonth]
  | 'c' => some ([shortWeekday, space, shortMonth, space, number .day, space] ++ clock ++
      [space, number .year])
  | 'd' | 'e' => some [number .day]
  | 'f' => some [number .nanosecond]
  | 'g' => some [number .isoYearMod100]
  | 'j' => some [number .ordinal]
  | 'm' => some [number .month]
  | 'n' | 't' => some [space]
  | 'q' => some [number .quarter]
  | 'r' => some [number .hour12, literal [':'], number .minute, literal [':'], number .second,
      space, amPm]
  | 's' => some [number .timestamp]
  | 'u' => some [number .dayFromMonday]
  | 'v' => some [number .day, literal ['-'], shortMonth, literal ['-'], number .year]
  | 'w' => some [number .daysFromSunday]
  | 'y' => some [number .yearMod100]
  | 'z' => some [zoneOffset false]
  | '+' => some [internet]
  | '%' => some [literal ['%']]
  | _ => none

/-- The items of a specifier after its `%`, and the rest of the format. A padding mark is allowed
before a single number only. -/
def ofSpecifier? : List Char → Option (List Item × List Char)
  | ':' :: ':' :: ':' :: 'z' :: rest | ':' :: ':' :: 'z' :: rest | ':' :: 'z' :: rest =>
    some ([zoneOffset false], rest)
  | '#' :: 'z' :: rest => some ([zoneOffset true], rest)
  | '.' :: 'f' :: rest => some ([fraction], rest)
  | '.' :: '3' :: 'f' :: rest => some ([fractionOf 3], rest)
  | '.' :: '6' :: 'f' :: rest => some ([fractionOf 6], rest)
  | '.' :: '9' :: 'f' :: rest => some ([fractionOf 9], rest)
  | '3' :: 'f' :: rest => some ([fractionDigits 3], rest)
  | '6' :: 'f' :: rest => some ([fractionDigits 6], rest)
  | '9' :: 'f' :: rest => some ([fractionDigits 9], rest)
  | c :: rest =>
    if c = '-' ∨ c = '0' ∨ c = '_' then
      match rest with
      | d :: rest =>
        match ofLetter? d with
        | some [number f] => some ([number f], rest)
        | _ => none
      | [] => none
    else (ofLetter? c).map (·, rest)
  | [] => none

/-- The items of a format, read with `fuel` for every character. -/
def ofChars? : Nat → List Char → Option (List Item)
  | 0, _ => some []
  | _, [] => some []
  | fuel + 1, '%' :: rest => do
    let (items, rest) ← ofSpecifier? rest
    let others ← ofChars? fuel rest
    some (items ++ others)
  | fuel + 1, c :: rest =>
    if Unicode.isWhiteSpace c then (ofChars? fuel rest).map (space :: ·)
    else (ofChars? fuel rest).map (literal [c] :: ·)

/-- The items of a format, if all its specifiers exist. -/
def listOf? (format : String) : Option (List Item) :=
  ofChars? (format.length + 1) format.toList

end Item

end Tabular.Calendar
