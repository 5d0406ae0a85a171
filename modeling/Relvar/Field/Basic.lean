/-
Fields after extraction: every modifier is parsed and checked, and the later
stages look at nothing else. A definition is a model's name with its fields in
declaration order.
-/
import Relvar.Value.Spelled

set_option autoImplicit false

namespace Relvar

/-- A default value that a declaration may give. -/
inductive Literal
  | bool (b : Bool)
  | int (n : Int)
  | str (s : String)
  deriving DecidableEq

namespace Literal

/-- The literal as a value. -/
def toValue : Literal → Value
  | bool b => .bool b
  | int n => .int n
  | str s => .str s

/-- The literal that a value is, if it is one. -/
def ofValue? : Value → Option Literal
  | .bool b => some (bool b)
  | v => match v.asText?, v.asInt? with
    | some s, _ => some (str s)
    | none, some n => some (int n)
    | none, none => none

theorem ofValue?_toValue (l : Literal) : ofValue? l.toValue = some l := by cases l <;> rfl

end Literal

/-- A column of another table that a field refers to. -/
structure Reference where
  table : String
  column : String
  deriving DecidableEq

namespace Reference

/-- The clause that names the column. -/
def clause (r : Reference) : String := s!"references {r.table}({r.column})"

/-- A reference from values. -/
def ofValues (table column : Value) : Except Invalid Reference :=
  match table.checkName [.name "table"], column.checkName [.name "column"] with
  | .ok t, .ok c => .ok ⟨t, c⟩
  | t, c => .error ⟨"ForeignKey", Checked.offences t ++ Checked.offences c⟩

end Reference

/-- A field of a model. -/
structure Field where
  name : String
  type : FieldType
  nullable : Bool
  isPrimaryKey : Bool
  isAuto : Bool
  isUnique : Bool
  hasDefault : Bool
  default : Option Literal
  size : Option Int
  reference : Option Reference
  deriving DecidableEq

namespace Field

/-- A field of a name and a type, with nothing else said of it. -/
def plain (name : String) (type : FieldType) (nullable : Bool) : Field :=
  ⟨name, type, nullable, false, false, false, false, none, none, none⟩

/-- Whether the field defaults to the present date or moment. -/
def isNowDefault (f : Field) : Bool := f.hasDefault && f.default == some (.str nowKeyword)

/-- Where the field's value comes from if the field is the key. -/
def keySource (f : Field) : KeySource :=
  if f.isAuto then .auto
  else if f.type = .serial then .serial
  else .supplied

end Field

/-- A model's name and its fields in declaration order. -/
structure Definition where
  name : String
  fields : List Field
  deriving DecidableEq

namespace Definition

/-- The names of the fields. -/
def fieldNames (d : Definition) : List String := d.fields.map (·.name)

/-- The first field of a name. -/
def field? (d : Definition) (name : String) : Option Field := d.fields.find? (·.name == name)

/-- A definition from a value for the name. -/
def ofValues (name : Value) (fields : List Field) : Except Invalid Definition :=
  match name.checkName [.name "name"] with
  | .ok n => .ok ⟨n, fields⟩
  | .error es => .error ⟨"ModelDefinition", es⟩

end Definition

end Relvar
