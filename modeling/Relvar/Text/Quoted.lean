/-
Quoted text: a text shown on one line between quotes, so that it can be read
back. The quote is a single one, unless the text holds single quotes and no
double one. The quote and the backslash are escaped, line feed, return and tab
have names, and what is not printable is written by its code point in two, four
or eight hexadecimal digits. Bytes are written in such digits too, two for each.
-/
import Relvar.Text.Printable

set_option autoImplicit false

namespace Relvar.Text

/-! ## Hexadecimal digits -/

/-- A number in hexadecimal digits, padded with zeros to a width. -/
def hexPadded (width n : Nat) : List Char :=
  let digits := Nat.toDigits 16 n
  List.replicate (width - digits.length) '0' ++ digits

/-- The value of a hexadecimal digit. -/
def hexValue (c : Char) : Nat := if c.isDigit then c.toNat - 48 else c.toNat - 87

/-- Bytes as hexadecimal digits. -/
def hexOfBytes (bs : List UInt8) : String :=
  String.ofList (bs.flatMap fun b => hexPadded 2 b.toNat)

/-- The bytes of hexadecimal digits. -/
def bytesOfHex : List Char → List UInt8
  | a :: b :: rest => (hexValue a * 16 + hexValue b).toUInt8 :: bytesOfHex rest
  | _ => []

/-! ## Quotes -/

/-- The single quote. -/
def singleQuote : Char := '\x27'

/-- The double quote. -/
def doubleQuote : Char := '\x22'

/-- The quote a text is shown between. -/
def quoteFor (s : List Char) : Char :=
  if s.contains singleQuote && !s.contains doubleQuote then doubleQuote else singleQuote

/-- The escape of a code point without a glyph. -/
def codeEscape (n : Nat) : List Char :=
  if n < 0x100 then '\\' :: 'x' :: hexPadded 2 n
  else if n < 0x10000 then '\\' :: 'u' :: hexPadded 4 n
  else '\\' :: 'U' :: hexPadded 8 n

/-- How one character stands between two quotes `q`. -/
def quotedChar (q c : Char) : List Char :=
  if c = q || c = '\\' then ['\\', c]
  else if c = '\n' then ['\\', 'n']
  else if c = '\r' then ['\\', 'r']
  else if c = '\t' then ['\\', 't']
  else if isPrintable c then [c]
  else codeEscape c.toNat

/-- The text between quotes, on one line. -/
def quoted (s : List Char) : List Char :=
  let q := quoteFor s
  q :: s.flatMap (quotedChar q) ++ [q]

/-- The string between quotes, on one line. -/
def quote (s : String) : String := String.ofList (quoted s.toList)

/-- How one byte stands between two quotes `q`: only the printable bytes below
128 stand for themselves. -/
def quotedByte (q : Char) (b : UInt8) : List Char :=
  let c := Char.ofNat b.toNat
  if c = q || c = '\\' then ['\\', c]
  else if c = '\n' then ['\\', 'n']
  else if c = '\r' then ['\\', 'r']
  else if c = '\t' then ['\\', 't']
  else if 0x20 ≤ b && b < 0x7F then [c]
  else '\\' :: 'x' :: hexPadded 2 b.toNat

/-- Bytes between quotes, after the letter that marks them. -/
def quotedBytes (bs : List UInt8) : List Char :=
  let q := quoteFor (bs.map fun b => Char.ofNat b.toNat)
  'b' :: q :: bs.flatMap (quotedByte q) ++ [q]

end Relvar.Text
