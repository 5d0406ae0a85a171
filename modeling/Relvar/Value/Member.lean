/-
Members of enumerations, made from values. A member of an enumeration of texts
or integers stands for the text or integer that its value converts to; another
one stands for its value as it is. A tuple gives the arguments of the conversion.
-/
import Relvar.Fault
import Relvar.Value.Spelled

set_option autoImplicit false

namespace Relvar.Value

/-- The arguments of the conversion of a value. -/
def conversionArguments : Value → List Value
  | tuple xs => xs
  | v => [v]

/-! ## Text -/

/-- The text of bytes, or why there is none, where an encoding is named. -/
def decode (v encoding : Value) : Except Fault String :=
  match encoding.asText?, v with
  | none, _ => .error (.notEncoding encoding.kind)
  | some _, bytes bs => .ok ((decodedText? bs).getD "")
  | some _, v => .error (.notDecoded (if v.asText?.isSome then none else some v.kind))

/-- The text that arguments convert to. -/
def convertText : List Value → Except Fault String
  | [] => .ok ""
  | [v] => .ok v.text
  | v :: encoding :: _ => decode v encoding

/-! ## Integers -/

/-- The integer of a numeral, which is shown in some way if it is refused. -/
def convertNumeral (shown s : String) : Except Fault Int :=
  (Decimal.readInt s).mapError fun
    | .malformed _ => .notNumeral shown
    | e => .numeral e

/-- The integer that a value converts to: a numeral is read, a number loses its
fraction. -/
def convertInteger (v : Value) : Except Fault Int :=
  match v.asText?, v.asInt?, v with
  | some s, _, _ => convertNumeral v.display s
  | none, some n, _ => .ok n
  | none, none, bool b => .ok (if b then 1 else 0)
  | none, none, bytes bs => convertNumeral v.display ((decodedText? bs).getD "?")
  | none, none, real x => match x.truncate? with
    | some n => .ok n
    | none => .error (.notFinite x)
  | none, none, v => .error (.notIntegral v.fullKind)

/-- The integer that arguments convert to. -/
def convertIntegers : List Value → Except Fault Int
  | [] => .ok 0
  | [v] => convertInteger v
  | _ => .error .baseGiven

/-! ## Members -/

/-- The member of an enumeration with a base and a value. -/
def memberOf (enumeration : String) (base : MemberBase) (v : Value) : Except Fault Value :=
  match base with
  | .text => (convertText v.conversionArguments).map (member enumeration base ∘ str)
  | .integer => (convertIntegers v.conversionArguments).map (member enumeration base ∘ int)
  | .plain => .ok (member enumeration base v)

end Relvar.Value
