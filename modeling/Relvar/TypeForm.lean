/-
Type forms: the type expressions that may stand where a declaration names the
type of a field. A form is a class, a union of forms, a list of a form, or a
name that is not resolved yet. Building a union flattens the unions inside it
and keeps the first of equal members; a union of one member is that member.
-/
import Relvar.Text.Quoted

set_option autoImplicit false

namespace Relvar

/-- The classes that a type form may name. -/
inductive NamedClass
  | int | str | float | bool | bytes | list | dict | tuple | object | complex
  | datetime | date | time | none | uuid | decimal
  deriving DecidableEq

namespace NamedClass

/-- The bare name of a class. -/
def name : NamedClass → String
  | int => "int" | str => "str" | float => "float" | bool => "bool" | bytes => "bytes"
  | list => "list" | dict => "dict" | tuple => "tuple" | object => "object"
  | complex => "complex" | datetime => "datetime" | date => "date" | time => "time"
  | none => "NoneType" | uuid => "UUID" | decimal => "Decimal"

/-- The name with the module in front, for the classes that are not built in. -/
def fullName : NamedClass → String
  | datetime => "datetime.datetime"
  | date => "datetime.date"
  | time => "datetime.time"
  | uuid => "uuid.UUID"
  | decimal => "decimal.Decimal"
  | c => c.name

/-- The classes in the order in which they are listed. -/
def all : List NamedClass :=
  [int, str, float, bool, bytes, list, dict, tuple, object, complex, datetime, date, time, none,
    uuid, decimal]

end NamedClass

/-- A type expression. A union written with bars shows its members in another
way than one written by name; so does a list with a capital. A name that is not
resolved yet, and text that stands where a form is expected, are kept with their
display. A `literal` is anything else, by its display. -/
inductive TypeForm
  | named (c : NamedClass)
  | forward (name shown : String)
  | text (s shown : String)
  | union (bars : Bool) (members : List TypeForm)
  | list (capital : Bool) (item : TypeForm)
  | literal (shown : String)

namespace TypeForm

/-! ## Display -/

/-- A union written by name. One of a member and the empty class is optional. -/
def unionText : List String → String
  | [a, "NoneType"] => "typing.Optional[" ++ a ++ "]"
  | ["NoneType", a] => "typing.Optional[" ++ a ++ "]"
  | ms => "typing.Union[" ++ ", ".intercalate ms ++ "]"

mutual

/-- The form as it stands inside another form. -/
def inner : TypeForm → String
  | named c => c.fullName
  | forward _ shown => "ForwardRef(" ++ shown ++ ")"
  | text _ shown => shown
  | union bars ms =>
    if bars then " | ".intercalate (barred ms)
    else unionText (inners ms)
  | list capital item => (if capital then "typing.List[" else "list[") ++ inner item ++ "]"
  | literal shown => shown

/-- The members of a union written by name. -/
def inners : List TypeForm → List String
  | [] => []
  | m :: ms => inner m :: inners ms

/-- The members of a union written with bars, where the empty class is short. -/
def barred : List TypeForm → List String
  | [] => []
  | m :: ms => (match m with | named .none => "None" | m => inner m) :: barred ms

end

/-- The form as a value. -/
def display : TypeForm → String
  | named c => "<class " ++ Text.quote c.fullName ++ ">"
  | f => f.inner

/-- The name of the class of the form itself. -/
def kind : TypeForm → String
  | named _ => "type"
  | forward _ _ => "ForwardRef"
  | text _ _ => "str"
  | union bars _ => if bars then "UnionType" else "_UnionGenericAlias"
  | list capital _ => if capital then "_GenericAlias" else "GenericAlias"
  | literal _ => "object"

/-! ## Building -/

mutual

/-- Whether two forms are the same type: the members of a union count in any
order. -/
def same : TypeForm → TypeForm → Bool
  | named a, named b => a == b
  | forward a _, forward b _ => a == b
  | text a _, text b _ => a == b
  | union _ as, union _ bs => allIn as bs && as.length == bs.length
  | list c a, list d b => c == d && same a b
  | literal a, literal b => a == b
  | _, _ => false

/-- Whether a form is one of several. -/
def isIn : TypeForm → List TypeForm → Bool
  | _, [] => false
  | a, b :: bs => same a b || isIn a bs

/-- Whether each of several forms is one of others. -/
def allIn : List TypeForm → List TypeForm → Bool
  | [], _ => true
  | a :: as, bs => isIn a bs && allIn as bs

end

/-- The members of a form: those of a union, or the form alone. -/
def members : TypeForm → List TypeForm
  | union _ ms => ms
  | f => [f]

/-- The forms without those that occur before. -/
def distinct (ms : List TypeForm) : List TypeForm :=
  ms.foldl (fun kept m => if isIn m kept then kept else kept ++ [m]) []

/-- The union of forms. -/
def unionOf (bars : Bool) (ms : List TypeForm) : TypeForm :=
  match distinct (ms.flatMap members) with
  | [m] => m
  | ms => union bars ms

/-- The form or nothing. -/
def optional (f : TypeForm) : TypeForm := unionOf false [f, named .none]

/-- Whether a union with this form is written by name even where bars stand. -/
def writtenByName : TypeForm → Bool
  | union bars _ => !bars
  | list capital _ => capital
  | forward _ _ => true
  | _ => false

/-- The union of forms joined by bars. A member that is itself written by name
makes the union one that is written by name. -/
def joined (ms : List TypeForm) : TypeForm := unionOf (!ms.any writtenByName) ms

end TypeForm

end Relvar
