/-
Messages put together from a pattern and arguments. A pattern is text with
fields: a percent sign, then perhaps the name of an entry, flags, a width, a
precision, and a letter that says how the argument is shown. Two percent signs
stand for one. Arguments are taken in order, or looked up by name if a single
mapping is given; all that are given in order must be used.
-/
import Relvar.Binary64.Places
import Relvar.Fault
import Relvar.Value.Dict

set_option autoImplicit false

namespace Relvar.Log

/-! ## Fields of a pattern -/

/-- A width or precision: a number, or an argument that says it. -/
inductive Measure
  | fixed (n : Nat)
  | given

/-- The name of the entry that a field shows. -/
inductive EntryName
  | absent
  | unclosed
  | closed (name : List Char)

/-- A field of a pattern. The letter is missing at the end of the pattern; it
comes with its place. -/
structure Slot where
  entry : EntryName
  flags : List Char
  width : Option Measure
  precision : Option Measure
  letter : Option (Char × Nat)

namespace Slot

/-- The name up to the bracket that closes it, `depth` brackets deep, and what
follows. -/
def readName (depth : Nat) : List Char → EntryName × List Char
  | [] => (.unclosed, [])
  | c :: s =>
    if c = ')' && depth = 0 then (.closed [], s)
    else
      let deeper := if c = '(' then depth + 1 else if c = ')' then depth - 1 else depth
      match readName deeper s with
      | (.closed name, rest) => (.closed (c :: name), rest)
      | r => r

/-- The name of an entry, if one stands here, and what follows. -/
def readEntry : List Char → EntryName × List Char
  | '(' :: s => readName 0 s
  | s => (.absent, s)

/-- A number or a star, if one stands here, and what follows. -/
def readMeasure : List Char → Option Measure × List Char
  | '*' :: s => (some .given, s)
  | s =>
    let ds := s.takeWhile Char.isDigit
    (if ds.isEmpty then none else some (.fixed (Decimal.valueOfDigits ds)), s.drop ds.length)

/-- A precision, if one stands here, and what follows. -/
def readPrecision : List Char → Option Measure × List Char
  | '.' :: s =>
    let (m, rest) := readMeasure s
    (some (m.getD (.fixed 0)), rest)
  | s => (none, s)

/-- What follows a letter that says how long an argument is stored. -/
def skipLength : List Char → List Char
  | 'h' :: s => s
  | 'l' :: s => s
  | 'L' :: s => s
  | s => s

/-- The field that stands at a place of a pattern, and how many characters it
takes. -/
def read (place : Nat) (s : List Char) : Slot × Nat :=
  let (entry, r) := readEntry s
  let flags := r.takeWhile fun c => "-+ #0".toList.contains c
  let (width, r) := readMeasure (r.drop flags.length)
  let (precision, r) := readPrecision r
  let r := skipLength r
  let taken := s.length - r.length
  (⟨entry, flags, width, precision, r.head?.map (·, place + taken)⟩, taken + 1)

end Slot

/-- A piece of a pattern. -/
inductive PatternPiece
  | plain (c : Char)
  | slot (s : Slot)

/-- The pieces of a pattern from a place on. -/
def patternPieces (place : Nat) : List Char → List PatternPiece
  | [] => []
  | c :: s =>
    if c != '%' then .plain c :: patternPieces (place + 1) s
    else if s.head? = some '%' then .plain '%' :: patternPieces (place + 2) (s.drop 1)
    else
      let (slot, taken) := Slot.read (place + 1) s
      .slot slot :: patternPieces (place + 1 + taken) (s.drop taken)
termination_by s => s.length
decreasing_by all_goals (simp only [List.length_drop, List.length_cons]; omega)

/-! ## Arguments -/

/-- The arguments still to be shown: the rest of a sequence, or a single value,
which is also a mapping if it has entries. -/
inductive Arguments
  | sequence (rest : List Value)
  | single (entries : List (Value × Value)) (pending : Option Value)

namespace Arguments

/-- The next argument, and those after it. -/
def next : Arguments → Except PatternError (Value × Arguments)
  | sequence (v :: rest) => .ok (v, sequence rest)
  | single es (some v) => .ok (v, single es none)
  | _ => .error .tooFew

/-- The arguments with the entry of a name pending. -/
def lookup (name : List Char) : Arguments → Except PatternError Arguments
  | sequence _ => .error .notMapping
  | single es _ => match Dict.find? es (.str (String.ofList name)) with
    | some v => .ok (single es (some v))
    | none => .error (.noEntry (String.ofList name))

/-- The arguments that a field shows. -/
def select : EntryName → Arguments → Except PatternError Arguments
  | .absent, a => .ok a
  | .unclosed, sequence _ => .error .notMapping
  | .unclosed, single _ _ => .error .incompleteKey
  | .closed name, a => a.lookup name

/-- A number of a field that an argument gives. -/
def givenMeasure (e : Extent) (v : Value) : Except PatternError Int :=
  match v with
  | .bool b => .ok (if b then 1 else 0)
  | v => match v.asInt? with
    | some n => if -e.bound ≤ n && n < e.bound then .ok n else .error (.starTooLarge e)
    | none => .error .starNotInteger

/-- A number of a field, if it has one. -/
def measure (e : Extent) : Option Measure → Arguments →
    Except PatternError (Option Int × Arguments)
  | none, a => .ok (none, a)
  | some (.fixed n), a => if n < e.bound then .ok (some n, a) else .error (.tooBig e)
  | some .given, a => do
    let (v, a) ← a.next
    let n ← givenMeasure e v
    return (some n, a)

/-- Whether arguments of a sequence are left. -/
def isLeft : Arguments → Bool
  | sequence rest => !rest.isEmpty
  | single _ _ => false

end Arguments

/-! ## Showing arguments -/

/-- A text put to the right of a width, or to the left if so flagged. -/
def aligned (flags : List Char) (width : Int) (s : List Char) : List Char :=
  let fill := List.replicate (width.natAbs - s.length) ' '
  if flags.contains '-' || width < 0 then s ++ fill else fill ++ s

/-- The sign of a number: a minus, or what the flags ask for. -/
def signText (flags : List Char) (negative : Bool) : List Char :=
  if negative then ['-']
  else if flags.contains '+' then ['+']
  else if flags.contains ' ' then [' ']
  else []

/-- A number: a sign and a base mark, then the digits, set off by zeros if so
flagged. -/
def numeric (flags : List Char) (width : Int) (front digits : List Char) : List Char :=
  if flags.contains '0' && !flags.contains '-' && 0 ≤ width then
    let zeros := width.toNat - front.length - digits.length
    front ++ List.replicate zeros '0' ++ digits
  else aligned flags width (front ++ digits)

/-- The digits of an integer as a letter asks for them, with their base mark. -/
def integerDigits (letter : Char) (flags : List Char) (n : Nat) : List Char × List Char :=
  let mark := fun (m : Char) => if flags.contains '#' then ['0', m] else []
  match letter with
  | 'o' => (mark 'o', Nat.toDigits 8 n)
  | 'x' => (mark 'x', Nat.toDigits 16 n)
  | 'X' => (mark 'X', (Nat.toDigits 16 n).map Char.toUpper)
  | _ => ([], Decimal.digits n)

/-- An integer with at least so many digits. -/
def integerText (letter : Char) (flags : List Char) (width : Int) (precision : Option Int)
    (n : Int) : List Char :=
  let (mark, ds) := integerDigits letter flags n.natAbs
  let zeros := List.replicate ((precision.getD 0).toNat - ds.length) '0'
  numeric flags width (signText flags (n < 0) ++ mark) (zeros ++ ds)

/-- The integer that an argument is, for a letter. A number with a fraction
counts in decimal only. -/
def integerOf (letter : Char) (v : Value) : Except PatternError Int :=
  match v with
  | .bool b => .ok (if b then 1 else 0)
  | .real x =>
    if letter = 'd' || letter = 'i' || letter = 'u' then
      match x with
      | .nan => .error .noIntegerOfNaN
      | .infinite _ => .error .noIntegerOfInfinity
      | x => .ok (x.truncate?.getD 0)
    else .error (.notInteger letter v.fullKind)
  | v => match v.asInt? with
    | some n => .ok n
    | none =>
      if letter = 'd' || letter = 'i' || letter = 'u' then
        .error (.notNumber letter v.fullKind)
      else .error (.notInteger letter v.fullKind)

/-- The number that an argument is. -/
def realOf (v : Value) : Except PatternError Binary64 :=
  match v with
  | .real x => .ok x
  | .bool b => .ok (Binary64.ofRatio false (if b then 1 else 0) 1)
  | v => match v.asInt? with
    | some n => match Binary64.ofRatio (n < 0) n.natAbs 1 with
      | .infinite _ => .error .tooLargeForFloat
      | x => .ok x
    | none => .error (.notReal v.fullKind)

/-- The digits of a number of units as a letter asks for them. -/
def realDigits (letter : Char) (flags : List Char) (precision : Nat) (units : Nat) : List Char :=
  let keep := flags.contains '#'
  match letter.toLower with
  | 'f' => Binary64.fixedPlaces keep precision units
  | 'e' => Binary64.scientificPlaces keep precision units
  | _ => Binary64.generalPlaces keep precision units

/-- A number as a letter asks for it. -/
def realText (letter : Char) (flags : List Char) (width : Int) (precision : Option Int)
    (x : Binary64) : List Char :=
  let places := match precision with
    | none => 6
    | some n => n.toNat
  let (negative, ds) := match x with
    | .nan => (false, "nan".toList)
    | .infinite negative => (negative, "inf".toList)
    | .finite negative units => (negative, realDigits letter flags places units)
  let ds := if letter.isUpper then ds.map Char.toUpper else ds
  numeric flags width (signText flags negative) ds

/-- The character that an argument is. -/
def characterOf (v : Value) : Except PatternError Char :=
  let ofCode := fun (n : Int) =>
    if 0 ≤ n && n < 0x110000 then .ok (Char.ofNat n.toNat) else .error .characterRange
  match v with
  | .bool b => ofCode (if b then 1 else 0)
  | v => match v.asText?, v.asInt? with
    | some s, _ => match s.toList with
      | [c] => .ok c
      | _ => .error .notCharacter
    | none, some n => ofCode n
    | none, none => .error .notCharacter

/-- A display in ASCII. -/
def asciiDisplay (s : List Char) : List Char :=
  s.flatMap fun c => if c.toNat < 0x80 then [c] else Text.codeEscape c.toNat

/-- A text cut to a precision. -/
def cut (precision : Option Int) (s : List Char) : List Char :=
  match precision with
  | none => s
  | some n => s.take n.toNat

/-- An argument as a letter at a place asks for it. -/
def showArgument (letter : Char) (place : Nat) (flags : List Char) (width : Int)
    (precision : Option Int) (v : Value) : Except PatternError (List Char) :=
  let shown := v.display.toList
  if letter = 's' then .ok (aligned flags width (cut precision v.text.toList))
  else if letter = 'r' then .ok (aligned flags width (cut precision shown))
  else if letter = 'a' then .ok (aligned flags width (cut precision (asciiDisplay shown)))
  else if letter = 'c' then (characterOf v).map fun c => aligned flags width [c]
  else if "diuoxX".toList.contains letter then
    (integerOf letter v).map (integerText letter flags width precision)
  else if "eEfFgG".toList.contains letter then
    (realOf v).map (realText letter flags width precision)
  else .error (.unsupported letter place)

/-- A field with the arguments it takes, and those after them. -/
def Slot.fill (s : Slot) (a : Arguments) : Except PatternError (List Char × Arguments) := do
  let a ← a.select s.entry
  let (width, a) ← a.measure .width s.width
  let (precision, a) ← a.measure .precision s.precision
  match s.letter with
  | none => throw .incomplete
  | some (letter, place) =>
    let (v, a) ← a.next
    let shown ← showArgument letter place s.flags (width.getD 0) precision v
    return (shown, a)

/-- Pieces with their arguments. -/
def fillPieces (a : Arguments) : List PatternPiece → Except PatternError (List Char)
  | [] => if a.isLeft then .error .tooMany else .ok []
  | .plain c :: ps => (fillPieces a ps).map (c :: ·)
  | .slot s :: ps => do
    let (shown, a) ← s.fill a
    let rest ← fillPieces a ps
    return shown ++ rest

/-- A pattern with its arguments. -/
def fillPattern (pattern : String) (a : Arguments) : Except PatternError String :=
  (fillPieces a (patternPieces 0 pattern.toList)).map String.ofList

/-- A message and its arguments as text. Without arguments the message is no
pattern. A single mapping that is not empty serves by its names. -/
def compose (message : Value) : List Value → Except PatternError String
  | [] => .ok message.text
  | [.dict (e :: es)] =>
    fillPattern message.text (.single (e :: es) (some (.dict (e :: es))))
  | args => fillPattern message.text (.sequence args)

end Relvar.Log
