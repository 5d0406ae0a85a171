/-
Numbers in decimal with a chosen number of places. The places are those after
the point, or those after the first digit where an exponent follows, or all the
significant ones. The decimal is the nearest one, and a half goes to the even
neighbour.
-/
import Relvar.Binary64.Text

set_option autoImplicit false

namespace Relvar.Binary64

/-- Digits with a point in front of the last so many. A point that nothing
follows stands only if it is asked for. -/
def pointed (keepPoint : Bool) (places : Nat) (ds : List Char) : List Char :=
  let whole := ds.take (ds.length - places)
  let fraction := ds.drop (ds.length - places)
  if fraction.isEmpty then whole ++ (if keepPoint then ['.'] else [])
  else whole ++ '.' :: fraction

/-- A number of units with so many places after the point. -/
def fixedPlaces (keepPoint : Bool) (places units : Nat) : List Char :=
  pointed keepPoint places
    (Decimal.padded (places + 1) (halfEven (units * tenTo places) one)).toList

/-- The quotient of a number of units and a power of ten, rounded to an integer. -/
def scaled (units : Nat) (exponent : Int) : Nat :=
  halfEven (units * tenTo (-exponent).toNat) (one * tenTo exponent.toNat)

/-- The digits of a number of units, so many after the first, and the exponent
of the first. -/
def significant (places units : Nat) : List Char × Int :=
  if units = 0 then (List.replicate (places + 1) '0', 0)
  else
    let exponent := leading units - 1
    let ds := Decimal.digits (scaled units (exponent - places))
    if ds.length = places + 1 then (ds, exponent) else (ds.take (places + 1), exponent + 1)

/-- Digits with a point after the first and an exponent. -/
def withExponent (keepPoint : Bool) (ds : List Char) (exponent : Int) : List Char :=
  pointed keepPoint (ds.length - 1) ds ++ (exponentText 2 exponent).toList

/-- A number of units with an exponent and so many places after the first digit. -/
def scientificPlaces (keepPoint : Bool) (places units : Nat) : List Char :=
  let (ds, exponent) := significant places units
  withExponent keepPoint ds exponent

/-- Digits without the zeros that end them, unless those are kept. -/
def significantDigits (keepZeros : Bool) (ds : List Char) : List Char :=
  if keepZeros then ds else
    match stripZeros ds with
    | [] => ['0']
    | ds => ds

/-- A number of units with so many significant digits: positional while the
exponent is at least minus four and less than their number. -/
def generalPlaces (keepZeros : Bool) (count units : Nat) : List Char :=
  let count := if count = 0 then 1 else count
  let (ds, exponent) := significant (count - 1) units
  let ds := significantDigits keepZeros ds
  if -4 ≤ exponent && exponent < count then
    if exponent < 0 then
      '0' :: '.' :: List.replicate (-exponent - 1).toNat '0' ++ ds
    else
      let whole := exponent.toNat + 1
      let padded := ds ++ List.replicate (whole - ds.length) '0'
      pointed keepZeros (padded.length - whole) padded
  else withExponent keepZeros ds exponent

end Relvar.Binary64
