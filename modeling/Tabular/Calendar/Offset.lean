/-!
# Zone offsets

A zone is written as a fixed offset from UTC: `+02:00`, `+0200` or `+02`.
-/

namespace Tabular.Calendar

/-- The value of two ASCII digits. -/
def twoDigits? (a b : Char) : Option Nat :=
  if a.isDigit && b.isDigit then some (10 * (a.toNat - '0'.toNat) + (b.toNat - '0'.toNat))
  else none

/-- The signed seconds of hours and minutes. -/
def offsetSeconds? (sign : Char) (hours minutes : Option Nat) : Option Int := do
  let h ← hours
  let m ← minutes
  let total : Int := h * 3600 + m * 60
  if 86400 ≤ total then none
  else if sign = '+' then some total
  else if sign = '-' then some (-total)
  else none

/-- The seconds by which local time in a zone is ahead of UTC. -/
def offset? (zone : String) : Option Int :=
  match zone.toList with
  | [s, a, b, ':', c, d] => offsetSeconds? s (twoDigits? a b) (twoDigits? c d)
  | [s, a, b, c, d] => offsetSeconds? s (twoDigits? a b) (twoDigits? c d)
  | [s, a, b] => offsetSeconds? s (twoDigits? a b) (some 0)
  | _ => none

/-- The zone, if it is no offset. -/
def unknownZone? (zone : Option String) : Option String :=
  zone.filter fun name ↦ (offset? name).isNone

/-- A name is reported exactly if it is given and no offset can be read from it. -/
theorem unknownZone?_eq_some_iff {zone : Option String} {name : String} :
    unknownZone? zone = some name ↔ zone = some name ∧ offset? name = none := by
  simp [unknownZone?, Option.filter_eq_some_iff]

/-- Nothing is reported exactly if the offset of a given name can be read. -/
theorem unknownZone?_eq_none_iff {zone : Option String} :
    unknownZone? zone = none ↔ ∀ name ∈ zone, (offset? name).isSome = true := by
  simp [unknownZone?, Option.filter_eq_none_iff, Option.isSome_iff_ne_none]

end Tabular.Calendar
