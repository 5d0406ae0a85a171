/-
The display of a value: text that tells values of different classes apart. A
string stands between quotes, a collection shows its members, a tuple of one
member keeps its comma, and a date or moment shows the numbers it is made of,
less the zero seconds and microseconds that end it. The text of a value differs
from its display for what has a text of its own: strings, dates, moments, and
the records that show their attributes alone.
-/
import Relvar.Value.Basic

set_option autoImplicit false

namespace Relvar

/-! ## Dates and moments -/

/-- The numbers as arguments. -/
def argumentText (ns : List Nat) : String := ", ".intercalate (ns.map Decimal.ofNat)

/-- The display of a date. -/
def Date.display (d : Date) : String := s!"datetime.date({argumentText [d.year, d.month, d.day]})"

/-- The display of an offset: a difference of seconds, with the days that make
the seconds positive. -/
def offsetDisplay (minutes : Int) : String :=
  if minutes = 0 then "datetime.timezone.utc"
  else
    let days := if 0 < minutes then "" else "days=-1, "
    let seconds := if 0 < minutes then minutes * 60 else minutes * 60 + 86400
    s!"datetime.timezone(datetime.timedelta({days}seconds={Decimal.ofInt seconds}))"

/-- The display of a moment. -/
def Moment.display (t : Moment) : String :=
  let base := [t.date.year, t.date.month, t.date.day, t.hour, t.minute]
  let ns :=
    if t.microsecond != 0 then base ++ [t.second, t.microsecond]
    else if t.second != 0 then base ++ [t.second]
    else base
  let zone := match t.offset with
    | none => ""
    | some m => ", tzinfo=" ++ offsetDisplay m
  s!"datetime.datetime({argumentText ns}{zone})"

/-! ## Values -/

/-- The members of a collection between brackets. -/
def bracketed (opening : String) (items : List String) (closing : String) : String :=
  opening ++ ", ".intercalate items ++ closing

/-- Members between round brackets; a single one is followed by a comma. -/
def tupled : List String → String
  | [x] => "(" ++ x ++ ",)"
  | xs => bracketed "(" xs ")"

/-- A name and a value with an equals sign between them. -/
def assigned (name shown : String) : String := name ++ "=" ++ shown

namespace Value

mutual

/-- The display of a value. -/
def display : Value → String
  | null => "None"
  | bool b => if b then "True" else "False"
  | int n => Decimal.ofInt n
  | str s => Text.quote s
  | real x => x.text
  | bytes bs => String.ofList (Text.quotedBytes bs)
  | date d => d.display
  | moment t => t.display
  | list xs => bracketed "[" (displays xs) "]"
  | tuple xs => tupled (displays xs)
  | dict es => bracketed "\x7b" (displayEntries es) "\x7d"
  | record as => bracketed "namespace(" (displayAttributes as) ")"
  | member e _ v => "<" ++ e ++ ".MEMBER: " ++ display v ++ ">"
  | semantic t => "<SemanticType." ++ t.label ++ ": " ++ Text.quote t.name ++ ">"
  | type f => f.display
  | field f => bracketed "FieldDeclaration(" (displayField f) ")"
  | model m => bracketed "ModelDeclaration(" (displayModel m) ")"
  | recordClass c => "<class " ++ Text.quote ("__main__." ++ c.name) ++ ">"
  | object c as => bracketed (c ++ "(") (displayAttributes as) ")"
  | registry _ => "<ModelRegistry>"

/-- The displays of several values. -/
def displays : List Value → List String
  | [] => []
  | x :: xs => display x :: displays xs

/-- The displays of the entries of a mapping. -/
def displayEntries : List (Value × Value) → List String
  | [] => []
  | (k, v) :: es => (display k ++ ": " ++ display v) :: displayEntries es

/-- The displays of named values. -/
def displayAttributes : List (String × Value) → List String
  | [] => []
  | (k, v) :: as => assigned k (display v) :: displayAttributes as

/-- The displays of the modifiers of a declared field. -/
def displayModifiers : List (String × Value) → List String
  | [] => []
  | (k, v) :: ms => (Text.quote k ++ ": " ++ display v) :: displayModifiers ms

/-- The parts of a declared field. -/
def displayField : FieldDeclOf Value → List String
  | ⟨name, declared, modifiers⟩ =>
    [assigned "name" (Text.quote name), assigned "declared_type" (display declared),
      assigned "modifiers" (bracketed "\x7b" (displayModifiers modifiers) "\x7d")]

/-- The displays of several declared fields. -/
def displayFields : List (FieldDeclOf Value) → List String
  | [] => []
  | f :: fs => bracketed "FieldDeclaration(" (displayField f) ")" :: displayFields fs

/-- The parts of a declared model. -/
def displayModel : ModelDeclOf Value → List String
  | ⟨name, fields⟩ =>
    [assigned "name" (display name), assigned "fields" (tupled (displayFields fields))]

end

/-- The text of a value. -/
def text : Value → String
  | str s => s
  | date d => d.iso
  | moment t => t.isoWith " "
  | member e _ _ => e ++ ".MEMBER"
  | semantic t => "SemanticType." ++ t.label
  | field f => " ".intercalate (displayField f)
  | model m => " ".intercalate (displayModel m)
  | object _ as => " ".intercalate (displayAttributes as)
  | v => v.display

end Value

end Relvar
