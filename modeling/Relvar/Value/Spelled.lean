/-
What a value spells. A part of a record that takes text, a truth value or an
integer also takes a value of another class that spells one: bytes spell the
text they encode, a word or a number a truth value, a numeral an integer, and a
member of an enumeration the text or the integer that it stands for.
-/
import Relvar.Decimal.Whole
import Relvar.Invalid
import Relvar.Text.Upper

set_option autoImplicit false

namespace Relvar.Value

/-! ## Text -/

/-- The text that bytes encode, if they encode some. -/
def decodedText? (bs : List UInt8) : Option String := String.fromUTF8? ⟨bs.toArray⟩

/-- The text of a value that is text or bytes, or the kind of fault of bytes that
encode none. -/
def encodedText? (fault : FaultKind) (v : Value) : Option (Except FaultKind String) :=
  match v with
  | bytes bs => some (match decodedText? bs with
    | some s => .ok s
    | none => .error fault)
  | v => v.asText?.map .ok

/-- The text that a value spells, or the kind of fault. -/
def spelledText (v : Value) : Except FaultKind String :=
  match v.encodedText? .notEncoded, v with
  | some r, _ => r
  | none, member _ _ inner => .ok inner.text
  | none, _ => .error .notText

/-- Text that is not empty. -/
def checkName (place : List Place) (v : Value) : Checked String :=
  match v.spelledText with
  | .error kind => .error [⟨kind, place⟩]
  | .ok s => if s = "" then .error [⟨.tooShort, place⟩] else .ok s

/-! ## Integers -/

/-- The bound of words: an integer fits in 64 bits with a sign if it is less than
this and not less than its negative. -/
def wordBound : Int := 0x8000000000000000

/-- Whether an integer fits in 64 bits with a sign. -/
def fitsWord (n : Int) : Bool := -wordBound ≤ n && n < wordBound

/-- The integer that a number is: a finite one without a fraction, of less than
64 bits. -/
def wholeReal (x : Binary64) : Except FaultKind Int :=
  match x.truncate?, x.toInt? with
  | none, _ => .error .notFinite
  | some _, none => .error .fractional
  | some _, some n => if -wordBound < n && n < wordBound then .ok n else .error .tooLong

/-- The integer that a text spells. -/
def wholeText (s : String) : Except FaultKind Int :=
  (Decimal.readWhole s).mapError fun
    | .unclear => .unclearInteger
    | .tooLong => .tooLong

/-- The integer that a member of an enumeration stands for. -/
def wholeMember : Value → Except FaultKind Int
  | bool b => .ok (if b then 1 else 0)
  | v => match v.asInt? with
    | some n => .ok n
    | none => .error .tooLong

/-- The integer that a value spells, or the kind of fault. -/
def spelledInt (v : Value) : Except FaultKind Int :=
  match v.encodedText? .unclearInteger, v.asInt?, v with
  | some r, _, _ => r.bind wholeText
  | none, some n, _ => .ok n
  | none, none, bool b => .ok (if b then 1 else 0)
  | none, none, real x => wholeReal x
  | none, none, member _ _ inner => wholeMember inner
  | none, none, _ => .error .notInteger

/-! ## Truth values -/

/-- The words for true. -/
def trueWords : List String := ["1", "on", "t", "true", "y", "yes"]

/-- The words for false. -/
def falseWords : List String := ["0", "off", "f", "false", "n", "no"]

/-- The truth value that an integer spells. -/
def boolOfInt : Int → Except FaultKind Bool
  | 0 => .ok false
  | 1 => .ok true
  | _ => .error .unclearBool

/-- The truth value that a word spells, in small or capital letters. -/
def boolOfText (s : String) : Except FaultKind Bool :=
  let word := String.ofList (Text.lowerLatin s.toList)
  if trueWords.contains word then .ok true
  else if falseWords.contains word then .ok false
  else .error .unclearBool

/-- The truth value that a value spells, or the kind of fault. A number spells one
only if it is whole and has no more than 64 bits. -/
def spelledBool (v : Value) : Except FaultKind Bool :=
  match v.encodedText? .unclearBool, v.asInt?, v with
  | some r, _, _ => r.bind boolOfText
  | none, some n, _ => if fitsWord n then boolOfInt n else .error .notBool
  | none, none, bool b => .ok b
  | none, none, real x => match wholeReal x with
    | .ok n => boolOfInt n
    | .error _ => .error .notBool
  | none, none, _ => .error .notBool

end Relvar.Value
