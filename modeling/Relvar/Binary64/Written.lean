/-
Numbers with a fraction as they are written in data: a numeral with blanks around
it, in which a sign may stand in front, digits on one side of the point suffice, and
infinity and what is no number have names in letters of either case. A numeral that
is none as it stands is read without its low lines, if each stands alone inside it.
-/
import Relvar.Binary64.Text
import Relvar.Decimal.Whole
import Relvar.Text.Upper

set_option autoImplicit false

namespace Relvar.Binary64

/-- The number of a name without a sign, in small letters. -/
def ofName? (negative : Bool) (name : String) : Option Binary64 :=
  if name = "nan" then some .nan
  else if name = "inf" || name = "infinity" then some (.infinite negative)
  else none

/-- The number of a numeral without blanks and low lines. -/
def ofBare? (s : List Char) : Option Binary64 :=
  let (negative, body) := Decimal.takeSign s
  (ofName? negative (String.ofList (Text.lowerLatin body))).or (magnitude? negative body)

/-- The number that a text writes. -/
def ofWritten? (text : String) : Option Binary64 :=
  let s := Decimal.trimNumeral text.toList
  (ofBare? s).or (ofBare? (Decimal.dropLines s))

/-- The number nearest to an integer. -/
def ofInt (n : Int) : Binary64 := ofRatio (n < 0) n.natAbs 1

end Relvar.Binary64
