/-
The text of a 64-bit number. It has the fewest digits that read back, stands in
positional notation while the point is at most sixteen digits from the first
digit to the right and three zeros to the left, and otherwise has an exponent
with a sign and at least two digits. A whole number in positional notation ends
in `.0`.
-/
import Relvar.Binary64.Shortest

set_option autoImplicit false

namespace Relvar.Binary64

/-- Where positional notation ends, and how the special numbers are spelled. -/
structure Style where
  leastPoint : Int
  greatestPoint : Int
  exponentDigits : Nat
  nan : String
  infinity : String

/-- The style of displays. -/
def Style.display : Style := ⟨-3, 16, 2, "nan", "inf"⟩

/-- The style of data interchange: only the special numbers differ. -/
def Style.interchange : Style := ⟨-3, 16, 2, "NaN", "Infinity"⟩

/-- An exponent with its sign. -/
def exponentText (width : Nat) (e : Int) : String :=
  (if e < 0 then "e-" else "e+") ++ Decimal.padded width e.natAbs

/-- Decimal digits as text. -/
def Digits.text (style : Style) (d : Digits) : String :=
  let n := d.digits.length
  if style.leastPoint ≤ d.point && d.point ≤ style.greatestPoint then
    if d.point ≤ 0 then
      "0." ++ String.ofList (List.replicate (-d.point).toNat '0' ++ d.digits)
    else if n ≤ d.point.toNat then
      String.ofList (d.digits ++ List.replicate (d.point.toNat - n) '0') ++ ".0"
    else
      String.ofList (d.digits.take d.point.toNat ++ '.' :: d.digits.drop d.point.toNat)
  else
    let mantissa := match d.digits with
      | [c] => [c]
      | c :: rest => c :: '.' :: rest
      | [] => ['0']
    String.ofList mantissa ++ exponentText style.exponentDigits (d.point - 1)

/-- A number as text in a style. -/
def textIn (style : Style) : Binary64 → String
  | .nan => style.nan
  | .infinite negative => (if negative then "-" else "") ++ style.infinity
  | .finite negative units =>
    (if negative then "-" else "") ++
      if units = 0 then "0.0" else (shortest units).text style

/-- A number as text. -/
def text (x : Binary64) : String := x.textIn .display

/-! ## Reading -/

/-- The number nearest to `mantissa · 10^exponent`, where the mantissa has
`count` digits. An exponent far outside the format decides alone. -/
def ofDecimal (negative : Bool) (mantissa count : Nat) (exponent : Int) : Binary64 :=
  if mantissa = 0 then .finite negative 0
  else if exponent + count > 400 then .infinite negative
  else if exponent + count < -400 then .finite negative 0
  else ofRatio negative (mantissa * tenTo exponent.toNat) (tenTo (-exponent).toNat)

/-- The exponent part of a numeral: nothing, or the letter, a sign and digits. -/
def exponent? : List Char → Option Int
  | [] => some 0
  | c :: rest =>
    if c = 'e' || c = 'E' then
      let (negative, ds) := Decimal.takeSign rest
      if ds.isEmpty || !ds.all Char.isDigit then none
      else
        let n : Int := Decimal.valueOfDigits ds
        some (if negative then -n else n)
    else none

/-- A numeral without a sign. -/
def magnitude? (negative : Bool) (s : List Char) : Option Binary64 :=
  if s = "nan".toList then some .nan
  else if s = "inf".toList then some (.infinite negative)
  else
    let whole := s.takeWhile Char.isDigit
    let afterWhole := s.drop whole.length
    let (fraction, rest) := match afterWhole with
      | '.' :: r => (r.takeWhile Char.isDigit, r.dropWhile Char.isDigit)
      | r => ([], r)
    let ds := whole ++ fraction
    if ds.isEmpty then none
    else (exponent? rest).map fun e =>
      ofDecimal negative (Decimal.valueOfDigits ds) ds.length (e - fraction.length)

/-- The number that a text stands for. -/
def ofText? (text : String) : Option Binary64 :=
  let (negative, s) := Decimal.takeSign text.toList
  magnitude? negative s

end Relvar.Binary64
