/-
The fewest decimal digits that read back. A decimal reads back as a number when
it lies in the interval of the reals that round to it, whose ends belong to it
when the number's last bit is even. For one digit, two digits and so on the two
neighbours of the number on that decimal grid are tried; the first grid with a
hit wins, and of two hits the nearer one.
-/
import Relvar.Binary64.Basic
import Relvar.Decimal.Numeral

set_option autoImplicit false

namespace Relvar.Binary64

/-- A decimal number: the point stands after the first `point` digits (before
them all if it is zero, and further to the left if it is negative). -/
structure Digits where
  digits : List Char
  point : Int

/-- The number of digits before the point of a positive number of units: if the
number is below one, minus the number of zeros that follow the point. -/
def leading (units : Nat) : Int :=
  if one ≤ units then (Decimal.digits (units / one)).length
  else -(((List.range 400).takeWhile fun j => units * tenTo (j + 1) < one).length : Int)

/-- The candidate nearest to the number among its two neighbours on the grid of
multiples of `10^exponent` that read back. -/
def onGrid? (units : Nat) (exponent : Int) : Option Nat :=
  let scale := tenTo (-exponent).toNat
  let den := one * tenTo exponent.toNat
  let step := spacing units
  let belowGap := if units = twoTo (Nat.log2 units) && 1 < step then step else 2 * step
  let low := (4 * units - belowGap) * scale
  let high := (4 * units + 2 * step) * scale
  let closed := (units / step) % 2 = 0
  let readsBack := fun c : Nat =>
    let x := 4 * c * den
    if closed then low ≤ x && x ≤ high else low < x && x < high
  let floor := units * scale / den
  let rest := units * scale % den
  match readsBack floor, readsBack (floor + 1) with
  | true, true =>
    if 2 * rest < den then some floor
    else if den < 2 * rest then some (floor + 1)
    else if floor % 2 = 0 then some floor else some (floor + 1)
  | true, false => some floor
  | false, true => some (floor + 1)
  | false, false => none

/-- The digits without the zeros that end them. -/
def stripZeros (ds : List Char) : List Char := (ds.reverse.dropWhile (· = '0')).reverse

/-- The shortest decimal that reads back as a positive number of units. -/
def shortest (units : Nat) : Digits :=
  let k := leading units
  let found := (List.range 17).findSome? fun (n : Nat) =>
    let exponent := k - (n + 1)
    (onGrid? units exponent).map fun c =>
      let ds := Decimal.digits c
      Digits.mk (stripZeros ds) (exponent + ds.length)
  found.getD ⟨['0'], 1⟩

end Relvar.Binary64
