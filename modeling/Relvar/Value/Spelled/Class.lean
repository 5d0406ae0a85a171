/-
Values of classes that values spell. A value of a class spells itself; a value of
another class may spell one too, less well. How well it does decides between the
members of a union. Of the classes whose values are not kept here, a value is kept as
it is given, if it spells one of them.
-/
import Relvar.Binary64.Written
import Relvar.Value.Spelled.Calendar

set_option autoImplicit false

namespace Relvar

/-! ## Degrees -/

/-- How well a value fits: it is such a value, one of a class that extends or widens
to it, or one of another class. -/
inductive Fit
  | exact
  | close
  | loose
  deriving DecidableEq

namespace Fit

/-- The number of a degree; a better one has a smaller number. -/
def order : Fit → Nat
  | exact => 0
  | close => 1
  | loose => 2

/-- The worse of two degrees. -/
def worse (a b : Fit) : Fit := if a.order < b.order then b else a

end Fit

namespace Value

/-- How well a value fits a class. -/
def fit (v : Value) (c : NamedClass) : Fit :=
  match c, v with
  | .int, int _ | .float, real _ | .str, str _ | .bool, bool _ | .bytes, bytes _
  | .list, list _ | .tuple, tuple _ | .dict, dict _ | .datetime, moment _ | .date, date _
  | .none, null => .exact
  | .object, _ => .close
  | .str, v => if v.asText?.isSome then .close else .loose
  | .int, v | .float, v => if v.asInt?.isSome then .close else .loose
  | _, _ => .loose

/-! ## Data -/

/-- The integer that a value spells, or the kind of fault. A plain member of an
enumeration spells what it stands for, whatever that is. -/
def spelledWhole : Value → Except FaultKind Value
  | member _ .plain v => .ok v
  | v => v.spelledInt.map int

/-- The number with a fraction that a value spells, or the kind of fault. -/
def spelledReal (v : Value) : Except FaultKind Binary64 :=
  match v.encodedText? .unclearReal, v.asInt?, v with
  | some r, _, _ => r.bind fun s => (Binary64.ofWritten? s).elim (.error .unclearReal) .ok
  | none, some n, _ => match Binary64.ofInt n with
    | .infinite _ => .error .notReal
    | x => .ok x
  | none, none, bool b => .ok (Binary64.ofInt (if b then 1 else 0))
  | none, none, real x => .ok x
  | none, none, _ => .error .notReal

/-- The bytes that a value spells, or the kind of fault. -/
def spelledBytes (v : Value) : Except FaultKind (List UInt8) :=
  match v with
  | bytes bs => .ok bs
  | v => match v.asText? with
    | some s => .ok s.toUTF8.toList
    | none => .error .notBytes

/-- The items of a list or tuple, or a kind of fault. -/
def spelledItems (fault : FaultKind) : Value → Except FaultKind (List Value)
  | list xs | tuple xs => .ok xs
  | _ => .error fault

/-! ## Classes whose values are not kept -/

/-- Whether a character is a digit to base sixteen. -/
def isHexDigit (c : Char) : Bool := c.isDigit || ('a' ≤ c.toLower && c.toLower ≤ 'f')

/-- Whether a text is the thirty-two digits of an identifier in groups. -/
def isGrouped (s : List Char) : Bool :=
  s.length = 36 && s.zipIdx.all fun p =>
    if [8, 13, 18, 23].contains p.2 then p.1 = '-' else isHexDigit p.1

/-- Whether a text writes a universal identifier: its digits, in groups or not, or the
groups in braces or after a label. -/
def isIdentifierText (text : String) : Bool :=
  let s := text.toList
  let label := "urn:uuid:".toList
  (s.length = 32 && s.all isHexDigit) || isGrouped s ||
    (s.head? = some '\x7b' && s.getLast? = some '\x7d' && isGrouped (s.drop 1).dropLast) ||
    (label.isPrefixOf s && isGrouped (s.drop label.length))

/-- The kind of fault of a value that spells no universal identifier. -/
def identifierFault? : Value → Option FaultKind
  | str s => if isIdentifierText s then none else some .unclearIdentifier
  | bytes bs =>
    if bs.length = 16 || (decodedText? bs).any isIdentifierText then none
    else some .unclearIdentifier
  | _ => some .notIdentifier

/-- The kind of fault of a number that is no decimal. -/
def decimalFault? : Option Binary64 → Option FaultKind
  | none => some .unclearDecimal
  | some (.finite _ _) => none
  | some _ => some .notFinite

/-- The kind of fault of a value that spells no decimal. -/
def spelledDecimalFault? (v : Value) : Option FaultKind :=
  match v.asText?, v.asInt?, v with
  | some s, _, _ =>
    let bare := (Text.trim s.toList).filter (· != '_')
    decimalFault? (Binary64.ofBare? bare)
  | none, some _, _ => none
  | none, none, real x => decimalFault? (some x)
  | none, none, _ => some .notDecimal

/-- Whether a text is an imaginary number with a sign in front, which may stand after a
real one. -/
def isImaginary (s : List Char) : Bool :=
  let body := s.dropLast
  (s.getLast? = some 'j' || s.getLast? = some 'J') &&
    ((body.length ≤ 1 && body.all fun c => c = '+' || c = '-') ||
      (Binary64.ofBare? body).isSome)

/-- Whether a text writes a complex number: a real one, an imaginary one, or one after
the other. -/
def isComplexText (text : String) : Bool :=
  let s := Text.trim text.toList
  let s := if s.head? = some '(' && s.getLast? = some ')' then
    Text.trim (s.drop 1).dropLast else s
  (Binary64.ofBare? s).isSome || isImaginary s ||
    (List.range s.length).any fun n =>
      let after := s.drop n
      (after.head? = some '+' || after.head? = some '-') && isImaginary after &&
        (Binary64.ofBare? (s.take n)).isSome

/-- The kind of fault of a value that spells no complex number. -/
def complexFault? (v : Value) : Option FaultKind :=
  match v.asText?, v.asInt?, v with
  | some s, _, _ => if isComplexText s then none else some .unclearComplex
  | none, some _, _ | none, none, real _ | none, none, bool _ => none
  | none, none, _ => some .notComplex

/-- A value as it is, unless it has a fault. -/
def keptUnless (fault : Option FaultKind) (v : Value) : Except FaultKind Value :=
  fault.elim (.ok v) .error

/-! ## Classes -/

/-- The value of a class that a value spells, or the kind of fault. -/
def spelledAs (c : NamedClass) (v : Value) : Except FaultKind Value :=
  match c with
  | .int => v.spelledWhole
  | .str => v.spelledText.map str
  | .float => v.spelledReal.map real
  | .bool => v.spelledBool.map bool
  | .bytes => v.spelledBytes.map bytes
  | .list => (v.spelledItems .notList).map list
  | .tuple => (v.spelledItems .notTuple).map tuple
  | .dict => v.keptUnless (if v.asMapping?.isSome then none else some .notMapping)
  | .datetime => v.spelledMoment.map moment
  | .date => v.spelledDate.map date
  | .none => v.keptUnless (if v matches null then none else some .notNull)
  | .time => v.keptUnless v.timeFault?
  | .uuid => v.keptUnless v.identifierFault?
  | .decimal => v.keptUnless v.spelledDecimalFault?
  | .complex => v.keptUnless v.complexFault?
  | .object => .ok v

end Value

end Relvar
