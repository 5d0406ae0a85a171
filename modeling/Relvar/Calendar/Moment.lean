/-
Moments: a date and a time of day to the microsecond, with or without an offset
from universal time. The text of a moment is the date, a separator and the time;
the fraction stands only if it is not zero and the offset only if there is one.
-/
import Relvar.Calendar.Date
import Relvar.Binary64.Basic

set_option autoImplicit false

namespace Relvar

/-- A date and time of day. The offset from universal time is in minutes. -/
structure Moment where
  date : Date
  hour : Nat
  minute : Nat
  second : Nat
  microsecond : Nat
  offset : Option Int
  deriving DecidableEq

namespace Moment

/-- The fraction of a second as text: nothing if it is zero. -/
def fractionText (microsecond : Nat) : String :=
  if microsecond = 0 then "" else "." ++ Decimal.padded 6 microsecond

/-- An offset as text: a sign, hours and minutes. -/
def offsetText : Option Int → String
  | none => ""
  | some m =>
    (if m < 0 then "-" else "+") ++ Decimal.padded 2 (m.natAbs / 60) ++ ":" ++
      Decimal.padded 2 (m.natAbs % 60)

/-- The time of day as text, to the second. -/
def clock (t : Moment) : String :=
  Decimal.padded 2 t.hour ++ ":" ++ Decimal.padded 2 t.minute ++ ":" ++ Decimal.padded 2 t.second

/-- The moment as text with a separator between date and time. -/
def isoWith (separator : String) (t : Moment) : String :=
  t.date.iso ++ separator ++ t.clock ++ fractionText t.microsecond ++ offsetText t.offset

/-- The moment as text. -/
def iso (t : Moment) : String := t.isoWith "T"

/-- The moment to the second, for people; the year has only the digits it needs. -/
def stamp (t : Moment) : String :=
  Decimal.ofNat t.date.year ++ "-" ++ Decimal.padded 2 t.date.month ++ "-" ++
    Decimal.padded 2 t.date.day ++ " " ++ t.clock

/-- The microseconds since the start of 1970, by the moment's own clock. -/
def clockMicroseconds (t : Moment) : Int :=
  ((t.date.number * 24 + t.hour) * 60 + t.minute) * 60000000 + t.second * 1000000 + t.microsecond

/-- Whether two moments compare equal: by universal time if both have an offset,
by the clock if neither has one. -/
def same (a b : Moment) : Bool :=
  match a.offset, b.offset with
  | none, none => a.clockMicroseconds == b.clockMicroseconds
  | some x, some y => a.clockMicroseconds - x * 60000000 == b.clockMicroseconds - y * 60000000
  | _, _ => false

/-! ## Reading -/

/-- An offset that ends a text. -/
def readOffset? : List Char → Option (Option Int)
  | [] => some none
  | c :: s =>
    if c = '+' || c = '-' then do
      let (h, s) ← Date.takeNumber? 2 s
      match s with
      | ':' :: s =>
        let (m, s) ← Date.takeNumber? 2 s
        if s.isEmpty then
          let n : Int := h * 60 + m
          some (some (if c = '-' then -n else n))
        else none
      | _ => none
    else none

/-- A fraction at the front of a text: six digits after a point, or nothing. -/
def readFraction? : List Char → Option (Nat × List Char)
  | '.' :: s => Date.takeNumber? 6 s
  | s => some (0, s)

/-- The moment that a text stands for. -/
def ofIso? (text : String) : Option Moment := do
  let (date, s) ← Date.readIso? text.toList
  match s with
  | 'T' :: s =>
    let (hour, s) ← Date.takeNumber? 2 s
    match s with
    | ':' :: s =>
      let (minute, s) ← Date.takeNumber? 2 s
      match s with
      | ':' :: s =>
        let (second, s) ← Date.takeNumber? 2 s
        let (microsecond, s) ← readFraction? s
        let offset ← readOffset? s
        some ⟨date, hour, minute, second, microsecond, offset⟩
      | _ => none
    | _ => none
  | _ => none

/-! ## Timestamps -/

/-- Why a number of seconds is not a moment. -/
inductive TimestampError
  | notANumber
  | beyondClock
  | beyondWord
  | beyondCalendar (year : Int)

/-- What is said of a number of seconds that is not a moment. -/
def TimestampError.message : TimestampError → String
  | .notANumber => "Invalid value NaN (not a number)"
  | .beyondClock => "timestamp out of range for platform time_t"
  | .beyondWord => "[Errno 75] Value too large for defined data type"
  | .beyondCalendar year => s!"year {Decimal.ofInt year} is out of range"

/-- Whole seconds and microseconds of a number of seconds. The fraction is
multiplied in the binary format first and then rounded, a half to the even
neighbour. -/
def splitSeconds (negative : Bool) (units : Nat) : Int × Int :=
  let whole : Int := units / Binary64.one
  let scaled := Binary64.roundUnits (units % Binary64.one * 1000000) 1
  let micro : Int := Binary64.halfEven scaled Binary64.one
  if negative then (-whole, -micro) else (whole, micro)

/-- The number of seconds from which on no clock counts. -/
def clockBound : Int := 0x8000000000000000

/-- Whether a year, counted from 1900 on, fits in 32 bits with a sign. -/
def yearFits (year : Int) : Bool := -0x80000000 ≤ year - 1900 && year - 1900 < 0x80000000

/-- The moment, by universal time, so many microseconds after the start of 1970. -/
def ofMicroseconds (total : Int) : Except TimestampError Moment :=
  let seconds := Int.fdiv total 1000000
  let microsecond := (total - seconds * 1000000).toNat
  let days := Int.fdiv seconds 86400
  let inDay := (seconds - days * 86400).toNat
  let (year, month, day) := Date.civil days
  if !yearFits year then .error .beyondWord
  else if year < 1 || 9999 < year then .error (.beyondCalendar year)
  else .ok ⟨⟨year.toNat, month, day⟩, inDay / 3600, inDay / 60 % 60, inDay % 60, microsecond,
    some 0⟩

/-- The moment, by universal time, so many seconds after the start of 1970. -/
def ofTimestamp : Binary64 → Except TimestampError Moment
  | .nan => .error .notANumber
  | .infinite _ => .error .beyondClock
  | .finite negative units =>
    let (whole, micro) := splitSeconds negative units
    if clockBound ≤ whole || whole < -clockBound then .error .beyondClock
    else ofMicroseconds (whole * 1000000 + micro)

end Moment

end Relvar
