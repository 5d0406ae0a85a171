/-
Whole numbers as they are written in data. A plain numeral is a minus sign or
none and ASCII digits without leading zeros, and fixes the number. A written one
may have blanks around it, a plus sign, zeros in front, single low lines between
its digits, and a point with one zero or more after it; it is cleaned of all these
and then read as a plain one. A numeral of more than 4300 characters is too long,
whatever follows its digits.
-/
import Relvar.Decimal.Numeral

set_option autoImplicit false

namespace Relvar.Decimal

/-- Why a text is not read as a whole number. -/
inductive WholeError
  | unclear
  | tooLong
  deriving DecidableEq

/-! ## Plain numerals -/

/-- The number that ASCII digits stand for. -/
def valueOfAscii (s : List Char) : Nat := s.foldl (fun n c => 10 * n + (c.toNat - '0'.toNat)) 0

/-- The whole number of a plain numeral. -/
def plainWhole (s : List Char) : Except WholeError Int :=
  let negative := s.head? = some '-'
  let body := if negative then s.drop 1 else s
  let ds := body.takeWhile Char.isDigit
  let rest := body.drop ds.length
  if ds = ['0'] then if rest.isEmpty then .ok 0 else .error .unclear
  else if ds.isEmpty || ds.head? = some '0' then .error .unclear
  else if digitLimit < s.length - rest.length then .error .tooLong
  else if rest.isEmpty then
    .ok (if negative then -(valueOfAscii ds : Int) else valueOfAscii ds)
  else .error .unclear

/-! ## Cleaning -/

/-- The text without the blanks at its two ends. -/
def trimNumeral (s : List Char) : List Char :=
  ((s.dropWhile isNumeralBlank).reverse.dropWhile isNumeralBlank).reverse

/-- The text without a plus sign in front; a minus sign does not follow one. -/
def dropPlus? : List Char → Option (List Char)
  | '+' :: '-' :: _ => none
  | '+' :: s => some s
  | s => some s

/-- Whether a character may stand between the zeros in front of a number. -/
def isLeading (c : Char) : Bool := c = '0' || c = '_'

/-- The text without the zeros in front. The last character before a point, or of
a text of nothing else, stays. -/
def dropZeros? : List Char → Option (List Char)
  | [] => none
  | c :: s =>
    if c = '0' then
      let zeros := c :: s.takeWhile isLeading
      let last := zeros.drop (zeros.length - 1)
      match s.dropWhile isLeading with
      | [] => some last
      | d :: rest =>
        if d.isDigit then some (d :: rest)
        else if d = '.' then some (last ++ d :: rest)
        else none
    else if c.isDigit || c = '-' then some (c :: s)
    else none

/-- The text without a point that zeros follow, at least one and nothing else. -/
def dropFraction (s : List Char) : List Char :=
  let whole := s.takeWhile (· != '.')
  let fraction := s.drop (whole.length + 1)
  if !fraction.isEmpty && fraction.all (· = '0') then whole else s

/-- Whether each low line of a text stands alone between two other characters. -/
def singleLines (s : List Char) : Bool :=
  let lines := s.zip s.tail
  s.head? != some '_' && s.getLast? != some '_' && !lines.any fun p => p.1 = '_' && p.2 = '_'

/-- The text without its low lines, if each stands alone inside it. -/
def dropLines (s : List Char) : List Char :=
  if singleLines s then s.filter (· != '_') else s

/-- The text cleaned of what a plain numeral does not have. -/
def cleanWhole? (s : List Char) : Option (List Char) := do
  let unsigned ← dropPlus? (trimNumeral s)
  let body ← dropZeros? unsigned
  return dropLines (dropFraction body)

/-! ## Reading -/

/-- The whole number that a text stands for: a plain numeral as it is, or what is
left of another one. -/
def readWhole (text : String) : Except WholeError Int :=
  let s := text.toList
  match plainWhole s with
  | .error .unclear => match cleanWhole? s with
    | some t => plainWhole t
    | none => .error .unclear
  | r => r

end Relvar.Decimal
