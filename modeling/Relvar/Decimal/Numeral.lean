/-
Integers in decimal. Writing uses the ten ASCII digits and a minus sign.
Reading is more liberal: blanks around the numeral, one sign, the decimal
digits of any script, and single low lines between digits. A numeral of more
than 4300 digits is refused, because the time to read one grows with the square
of its length.
-/
import Relvar.Text.CodeRanges
import Relvar.Text.Quoted

set_option autoImplicit false

namespace Relvar.Decimal

open Relvar.Text

/-! ## Writing -/

/-- The decimal digits of a natural number. -/
def digits (n : Nat) : List Char := Nat.toDigits 10 n

/-- The digits of a number, padded with zeros to a width. -/
def padded (width n : Nat) : String :=
  let ds := digits n
  String.ofList (List.replicate (width - ds.length) '0' ++ ds)

/-- A natural number in decimal. -/
def ofNat (n : Nat) : String := String.ofList (digits n)

/-- An integer in decimal, with a minus sign in front of a negative one. -/
def ofInt : Int → String
  | .ofNat n => ofNat n
  | .negSucc n => String.ofList ('-' :: digits (n + 1))

/-! ## Reading -/

/-- The most digits that a numeral may have. -/
def digitLimit : Nat := 4300

/-- Why a text is not read as an integer. -/
inductive NumeralError
  | malformed (text : String)
  | tooLong (digits : Nat)

/-- The most characters of a refused text that its refusal shows. -/
def shownLimit : Nat := 200

/-- What is said of a text that is not read as an integer. -/
def NumeralError.message : NumeralError → String
  | .malformed text =>
    "invalid literal for int() with base 10: " ++
      String.ofList ((quoted text.toList).take shownLimit)
  | .tooLong n =>
    s!"Exceeds the limit ({ofNat digitLimit} digits) for integer string conversion: " ++
      s!"value has {ofNat n} digits; use sys.set_int_max_str_digits() to increase the limit"

/-- Whether a character may stand around a numeral: a blank, the information
separators excepted. -/
def isNumeralBlank (c : Char) : Bool := isBlank c && !(0x1C ≤ c.toNat && c.toNat ≤ 0x1F)

/-- The number that decimal digits of any script stand for. -/
def valueOfDigits (s : List Char) : Nat :=
  s.foldl (fun n c => 10 * n + (decimalValue? c).getD 0) 0

/-- The digits of a numeral without a sign, less the low lines between them;
`none` if it is empty or a low line does not stand between two digits. -/
def bareDigits? : List Char → Option (List Char)
  | [] => none
  | [c] => if isDecimal c then some [c] else none
  | c :: '_' :: rest => if isDecimal c then (bareDigits? rest).map (c :: ·) else none
  | c :: rest => if isDecimal c then (bareDigits? rest).map (c :: ·) else none

/-- The value of a digit sequence of an allowed length. -/
def readDigits (s : List Char) : Except NumeralError Nat :=
  if s.length > digitLimit then .error (.tooLong s.length) else .ok (valueOfDigits s)

/-- A sign in front of a numeral, and whether it is a minus. -/
def takeSign : List Char → Bool × List Char
  | '-' :: r => (true, r)
  | '+' :: r => (false, r)
  | r => (false, r)

/-- The integer that a text stands for. The length is judged before what follows
the digits. -/
def readInt (text : String) : Except NumeralError Int :=
  let (negative, body) := takeSign (text.toList.dropWhile isNumeralBlank)
  let numeral := body.takeWhile fun c => isDecimal c || c = '_'
  let rest := body.drop numeral.length
  match bareDigits? numeral with
  | none => .error (.malformed text)
  | some ds => do
    let n ← readDigits ds
    if rest.all isNumeralBlank then
      .ok (if negative then -(n : Int) else n)
    else .error (.malformed text)

end Relvar.Decimal
