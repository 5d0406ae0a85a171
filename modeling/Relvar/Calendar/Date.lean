/-
Dates of the proleptic Gregorian calendar. A date has a text of ten characters,
year first, and a number: the days since 1 January 1970. The number is computed
in cycles of four hundred years of 146097 days, with the year starting in March
so that the leap day is its last.
-/
import Relvar.Decimal.Numeral

set_option autoImplicit false

namespace Relvar

/-- A calendar date. -/
structure Date where
  year : Nat
  month : Nat
  day : Nat
  deriving DecidableEq

namespace Date

/-- The date as text: four digits of the year, two of the month, two of the day. -/
def iso (d : Date) : String :=
  Decimal.padded 4 d.year ++ "-" ++ Decimal.padded 2 d.month ++ "-" ++ Decimal.padded 2 d.day

/-- The month's place in a year that starts in March. -/
def marchMonth (month : Nat) : Nat := (month + 9) % 12

/-- The days since 1 January 1970. -/
def number (d : Date) : Int :=
  let y : Int := if d.month ≤ 2 then (d.year : Int) - 1 else d.year
  let era := Int.fdiv y 400
  let yearOfEra := y - era * 400
  let dayOfYear : Int := (153 * marchMonth d.month + 2) / 5 + d.day - 1
  let dayOfEra := yearOfEra * 365 + yearOfEra / 4 - yearOfEra / 100 + dayOfYear
  era * 146097 + dayOfEra - 719468

/-- The year, month and day of a day number, before the year is known to be one
that a date can have. -/
def civil (n : Int) : Int × Nat × Nat :=
  let z := n + 719468
  let era := Int.fdiv z 146097
  let dayOfEra := z - era * 146097
  let yearOfEra := (dayOfEra - dayOfEra / 1460 + dayOfEra / 36524 - dayOfEra / 146096) / 365
  let dayOfYear := dayOfEra - (365 * yearOfEra + yearOfEra / 4 - yearOfEra / 100)
  let march := (5 * dayOfYear + 2) / 153
  let day := dayOfYear - (153 * march + 2) / 5 + 1
  let month := if march < 10 then march + 3 else march - 9
  let year := yearOfEra + era * 400 + (if month ≤ 2 then 1 else 0)
  (year, month.toNat, day.toNat)

/-- The digits at the front of a text, as many as asked for, and what follows. -/
def takeNumber? (count : Nat) (s : List Char) : Option (Nat × List Char) :=
  let ds := s.take count
  if ds.length = count && ds.all Char.isDigit then
    some (Decimal.valueOfDigits ds, s.drop count)
  else none

/-- A date at the front of a text, and what follows. -/
def readIso? (s : List Char) : Option (Date × List Char) := do
  let (year, s) ← takeNumber? 4 s
  match s with
  | '-' :: s =>
    let (month, s) ← takeNumber? 2 s
    match s with
    | '-' :: s =>
      let (day, s) ← takeNumber? 2 s
      some (⟨year, month, day⟩, s)
    | _ => none
  | _ => none

/-- The date that a text of ten characters stands for. -/
def ofIso? (text : String) : Option Date :=
  match readIso? text.toList with
  | some (d, []) => some d
  | _ => none

end Date

end Relvar
