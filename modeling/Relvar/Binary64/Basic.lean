/-
Binary floating-point numbers of 64 bits, by value. A finite number is a sign
and a whole number of units of `2^-1074`, the distance between the smallest
numbers, so that every finite number is exact and all arithmetic is arithmetic
of natural numbers. Rounding picks the nearest number of 53 significant bits,
and of two nearest ones the one with an even last bit.
-/

set_option autoImplicit false

namespace Relvar

/-- A number of the 64-bit binary format. -/
inductive Binary64
  | nan
  | infinite (negative : Bool)
  | finite (negative : Bool) (units : Nat)
  deriving DecidableEq

namespace Binary64

/-- A power of two. -/
def twoTo (n : Nat) : Nat := Nat.pow 2 n

/-- A power of ten. -/
def tenTo (n : Nat) : Nat := Nat.pow 10 n

/-- The significant bits of a number. -/
def precision : Nat := 53

/-- The number of units in one. -/
def one : Nat := twoTo 1074

/-- The least number of units that is too large for a finite number. -/
def overflow : Nat := twoTo 2098

/-- The quotient rounded to the nearest integer, a half to the even neighbour. -/
def halfEven (num den : Nat) : Nat :=
  let q := num / den
  let r := num % den
  if 2 * r < den then q
  else if den < 2 * r then q + 1
  else if q % 2 = 0 then q else q + 1

/-- The distance from a number of units to the next one of 53 significant bits. -/
def spacing (units : Nat) : Nat := twoTo (Nat.log2 units - (precision - 1))

/-- The quotient in units, rounded to 53 significant bits. -/
def roundUnits (num den : Nat) : Nat :=
  let step := spacing (num / den)
  halfEven num (den * step) * step

/-- The number nearest to a quotient of units. -/
def ofUnits (negative : Bool) (num den : Nat) : Binary64 :=
  let units := roundUnits num den
  if units < overflow then .finite negative units else .infinite negative

/-- The number nearest to a quotient. -/
def ofRatio (negative : Bool) (num den : Nat) : Binary64 :=
  ofUnits negative (num * one) den

/-- Whether a number is zero, of either sign. -/
def isZero : Binary64 → Bool
  | .finite _ 0 => true
  | _ => false

/-- The integer a number equals, if it equals one. -/
def toInt? : Binary64 → Option Int
  | .finite negative units =>
    if units % one = 0 then
      let n : Int := units / one
      some (if negative then -n else n)
    else none
  | _ => none

/-- The integer part of a finite number, toward zero. -/
def truncate? : Binary64 → Option Int
  | .finite negative units =>
    let n : Int := units / one
    some (if negative then -n else n)
  | _ => none

/-- Whether two numbers compare equal: a NaN equals nothing, and the two zeros
are equal. -/
def same : Binary64 → Binary64 → Bool
  | .finite _ 0, .finite _ 0 => true
  | .finite s u, .finite t v => s == t && u == v
  | .infinite s, .infinite t => s == t
  | _, _ => false

end Binary64

end Relvar
