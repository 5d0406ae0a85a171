/-
Values: what a declaration, an instance of a model or a statement's parameters
may hold. Next to data (numbers, text, dates, collections) a value may be a type
form, a field type, a declaration, a record class or one of its instances,
because declarations are handed over as values in any of these shapes.

The three record types are written over the type of values first, so that a
value may hold them.
-/
import Relvar.FieldType
import Relvar.TypeForm
import Relvar.Binary64.Text
import Relvar.Calendar.Moment

set_option autoImplicit false

namespace Relvar

/-! ## Records that hold values -/

/-- A declared field over a type of values: a name, a type and named modifiers. -/
structure FieldDeclOf (V : Type) where
  name : String
  type : V
  modifiers : List (String × V)

/-- A declared model over a type of values: a name and fields in order. The name
is text, unless the model was renamed by a value of another class. -/
structure ModelDeclOf (V : Type) where
  name : V
  fields : List (FieldDeclOf V)

/-- What a field of a record class holds when an instance gives it no value: a
value is required, a fixed value, or a value made by a factory. A factory that
reads the clock makes the present moment. -/
inductive Preset (V : Type)
  | required
  | value (v : V)
  | clock
  | factory (made : V)

/-- A field of a record class: its annotation, its least and greatest length, and
the extra entries that its author attached, if they are a mapping. -/
structure ClassFieldOf (V : Type) where
  name : String
  annotation : V
  preset : Preset V
  minLength : Option Int
  maxLength : Option Int
  extra : List (V × V)

/-- A record class: its name, the table it names, if any, and its fields, those
of its parents first. -/
structure RecordClassOf (V : Type) where
  name : String
  table : Option V
  fields : List (ClassFieldOf V)

/-- What the members of an enumeration are besides members: texts, integers, or
nothing else. -/
inductive MemberBase
  | text
  | integer
  | plain
  deriving DecidableEq

/-! ## Values -/

/-- A value. -/
inductive Value
  | null
  | bool (b : Bool)
  | int (n : Int)
  | str (s : String)
  | real (x : Binary64)
  | bytes (bs : List UInt8)
  | date (d : Date)
  | moment (t : Moment)
  | list (items : List Value)
  | tuple (items : List Value)
  | dict (entries : List (Value × Value))
  | record (attributes : List (String × Value))
  | member (enumeration : String) (base : MemberBase) (value : Value)
  | semantic (t : FieldType)
  | type (form : TypeForm)
  | field (f : FieldDeclOf Value)
  | model (m : ModelDeclOf Value)
  | recordClass (c : RecordClassOf Value)
  | object (c : String) (attributes : List (String × Value))
  | registry (models : List (ModelDeclOf Value))

instance : Inhabited Value := ⟨.null⟩

/-- A declared field. -/
abbrev FieldDecl := FieldDeclOf Value

/-- A declared model. -/
abbrev ModelDecl := ModelDeclOf Value

/-- A field of a record class. -/
abbrev ClassField := ClassFieldOf Value

/-- A record class. -/
abbrev RecordClass := RecordClassOf Value

namespace Value

/-- The text of a value that is text: a string, a field type, or a member of an
enumeration of texts. -/
def asText? : Value → Option String
  | str s => some s
  | semantic t => some t.name
  | member _ .text (str s) => some s
  | _ => none

/-- The value, unless it is nothing. -/
def given? : Value → Option Value
  | null => none
  | v => some v

/-- The integer of a value that is an integer and no boolean. -/
def asInt? : Value → Option Int
  | int n => some n
  | member _ .integer (int n) => some n
  | _ => none

/-- The entries of a value that is a mapping. -/
def asMapping? : Value → Option (List (Value × Value))
  | dict es => some es
  | _ => none

/-- Whether a value counts as true. Nothing, zero and whatever is empty do not. -/
def isTruthy : Value → Bool
  | null => false
  | bool b => b
  | int n => n != 0
  | str s => s != ""
  | real x => !x.isZero
  | bytes bs => !bs.isEmpty
  | list xs => !xs.isEmpty
  | tuple xs => !xs.isEmpty
  | dict es => !es.isEmpty
  | member _ .text v => v.isTruthy
  | member _ .integer v => v.isTruthy
  | registry ms => !ms.isEmpty
  | _ => true

/-- The name of the class of a value. -/
def kind : Value → String
  | null => "NoneType"
  | bool _ => "bool"
  | int _ => "int"
  | str _ => "str"
  | real _ => "float"
  | bytes _ => "bytes"
  | date _ => "date"
  | moment _ => "datetime"
  | list _ => "list"
  | tuple _ => "tuple"
  | dict _ => "dict"
  | record _ => "SimpleNamespace"
  | member e _ _ => e
  | semantic _ => "SemanticType"
  | type f => f.kind
  | field _ => "FieldDeclaration"
  | model _ => "ModelDeclaration"
  | recordClass _ => "ModelMetaclass"
  | object c _ => c
  | registry _ => "ModelRegistry"

/-- The name of the class of a value, with its module in front for dates, moments,
records and the forms that are not written by name. -/
def fullKind : Value → String
  | date _ => "datetime.date"
  | moment _ => "datetime.datetime"
  | record _ => "types.SimpleNamespace"
  | type (.union true _) => "types.UnionType"
  | type (.list false _) => "types.GenericAlias"
  | v => v.kind

end Value

end Relvar
