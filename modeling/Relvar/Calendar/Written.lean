/-
Dates and moments as people and programs write them. The text of a
moment may leave out the seconds, separate the date in several ways and give the
fraction with any number of digits, of which six count. A number counts seconds from
the start of 1970, or milliseconds if it is large. What is read exists in the
calendar.
-/
import Relvar.Binary64.Text
import Relvar.Calendar.Moment

set_option autoImplicit false

namespace Relvar

namespace Date

/-- The days of a month. -/
def daysOf (year month : Nat) : Nat :=
  if month = 2 then
    if year % 4 = 0 && (year % 100 != 0 || year % 400 = 0) then 29 else 28
  else if [4, 6, 9, 11].contains month then 30
  else 31

/-- Whether a date is in the calendar. -/
def inCalendar (d : Date) : Bool :=
  1 ≤ d.year && 1 ≤ d.month && d.month ≤ 12 && 1 ≤ d.day && d.day ≤ daysOf d.year d.month

/-- A date of the calendar at the front of a text, and what follows. -/
def readWritten? (s : List Char) : Option (Date × List Char) :=
  (readIso? s).filter fun p => p.1.inCalendar

/-- The date of the calendar that a text writes. -/
def ofWritten? (text : String) : Option Date :=
  match readWritten? text.toList with
  | some (d, []) => some d
  | _ => none

end Date

namespace Moment

/-- The midnight at which a date starts. -/
def midnight (d : Date) : Moment := ⟨d, 0, 0, 0, 0, none⟩

/-- Whether a moment is a midnight by its own clock. -/
def isMidnight (t : Moment) : Bool :=
  t.hour = 0 && t.minute = 0 && t.second = 0 && t.microsecond = 0

/-! ## Text -/

/-- The characters that may stand between a date and a time. -/
def separators : List Char := ['T', 't', ' ', '_']

/-- Two digits below a bound at the front of a text, and what follows. -/
def readBelow? (bound : Nat) (s : List Char) : Option (Nat × List Char) :=
  (Date.takeNumber? 2 s).filter fun p => p.1 < bound

/-- A fraction of a second in microseconds, if there is one, and what follows. -/
def readShare? (s : List Char) : Option (Nat × List Char) :=
  match s with
  | '.' :: s | ',' :: s =>
    let ds := s.takeWhile Char.isDigit
    if ds.isEmpty then none
    else some (Decimal.valueOfDigits ((ds ++ List.replicate 6 '0').take 6),
      s.drop ds.length)
  | s => some (0, s)

/-- Seconds with a fraction, if there are some, and what follows. -/
def readSeconds? : List Char → Option ((Nat × Nat) × List Char)
  | ':' :: s => do
    let (second, s) ← readBelow? 60 s
    let (microsecond, s) ← readShare? s
    some ((second, microsecond), s)
  | s => some ((0, 0), s)

/-- An offset that ends a text: none, a letter for universal time, or a sign with
hours and minutes. -/
def readShift? : List Char → Option (Option Int)
  | [] => some none
  | ['Z'] | ['z'] => some (some 0)
  | c :: s => do
    let sign : Int ← match c with
      | '+' => some 1
      | '-' | '−' => some (-1)
      | _ => none
    let (hours, s) ← readBelow? 24 s
    let (minutes, s) ← readBelow? 60 (match s with | ':' :: s => s | s => s)
    if s.isEmpty then some (some (sign * (hours * 60 + minutes))) else none

/-- A time of day that ends a text, on a date. -/
def readClock? (d : Date) (s : List Char) : Option Moment := do
  let (hour, s) ← readBelow? 24 s
  let s ← match s with
    | ':' :: s => some s
    | _ => none
  let (minute, s) ← readBelow? 60 s
  let ((second, microsecond), s) ← readSeconds? s
  let offset ← readShift? s
  some ⟨d, hour, minute, second, microsecond, offset⟩

/-- The moment that a text writes with its time of day. -/
def ofWritten? (text : String) : Option Moment :=
  match Date.readWritten? text.toList with
  | some (d, c :: s) => if separators.contains c then readClock? d s else none
  | _ => none

/-! ## Counts -/

/-- The count from which on milliseconds are counted. -/
def millisecondBound : Nat := 20000000000

/-- The first second that is counted to: the start of 1600. -/
def firstSecond : Int := -11676096000

/-- The moment, by universal time, that a number counts to, and some microseconds
later. -/
def ofCount? (n microseconds : Int) : Option Moment :=
  let total := (if n.natAbs ≤ millisecondBound then n * 1000000 else n * 1000) + microseconds
  if total < firstSecond * 1000000 then none else (ofMicroseconds total).toOption

/-- The moment that a number with a fraction counts to: the count is the integer below
it, and the fraction comes after, whatever the sign. -/
def ofRealCount? : Binary64 → Option Moment
  | .finite negative units =>
    let (whole, micro) := splitSeconds negative units
    let isBelow := negative && units % Binary64.one != 0
    ofCount? (if isBelow then whole - 1 else whole) micro.natAbs
  | _ => none

/-- The moment that a numeral counts to. -/
def ofCountText? (text : String) : Option Moment :=
  let (negative, s) := Decimal.takeSign text.toList
  let ds := s.takeWhile Char.isDigit
  let n : Int := Decimal.valueOfDigits ds
  match ds.isEmpty, s.drop ds.length with
  | true, _ => none
  | false, [] => ofCount? (if negative then -n else n) 0
  | false, '.' :: share =>
    if share.all Char.isDigit then (Binary64.magnitude? negative s).bind ofRealCount? else none
  | false, _ => none

/-- The moment that a text writes or counts to. -/
def ofData? (text : String) : Option Moment := (ofWritten? text).or (ofCountText? text)

/-- Whether a text writes or counts to a time of day. -/
def isTimeText (text : String) : Bool :=
  (readClock? ⟨1970, 1, 1⟩ text.toList).isSome ||
    (ofCountText? text).any fun t => t.date = ⟨1970, 1, 1⟩

end Moment

end Relvar
