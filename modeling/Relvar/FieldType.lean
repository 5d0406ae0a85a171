/-
The vocabulary that declarations, compiled models and executors share: the types
a field may have, where the value of a key comes from, the role of a field, and
the styles in which a database marks the parameters of a statement. Each has a
name by which texts refer to it.
-/

set_option autoImplicit false

namespace Relvar

/-! ## Field types -/

/-- The types that a field may have. -/
inductive FieldType
  | serial
  | integer
  | string
  | float
  | text
  | date
  | boolean
  | dateTime
  deriving DecidableEq

namespace FieldType

/-- The field types in the order in which they are listed. -/
def all : List FieldType := [serial, integer, string, float, text, date, boolean, dateTime]

/-- The name by which a declaration refers to a type. -/
def name : FieldType → String
  | serial => "Serial"
  | integer => "Integer"
  | string => "String"
  | float => "Float"
  | text => "Text"
  | date => "Date"
  | boolean => "Boolean"
  | dateTime => "DateTime"

/-- The name of a type in capitals, as the display of a type shows it. -/
def label : FieldType → String
  | serial => "SERIAL"
  | integer => "INTEGER"
  | string => "STRING"
  | float => "FLOAT"
  | text => "TEXT"
  | date => "DATE"
  | boolean => "BOOLEAN"
  | dateTime => "DATETIME"

/-- The type of a name. -/
def ofName? (s : String) : Option FieldType := all.find? (·.name == s)

/-- Whether the type is a date or a moment, and so may default to the present. -/
def isTemporal : FieldType → Bool
  | date | dateTime => true
  | _ => false

theorem mem_all (t : FieldType) : t ∈ all := by cases t <;> decide

theorem ofName?_name (t : FieldType) : ofName? t.name = some t := by cases t <;> decide

theorem name_of_ofName? {s : String} {t : FieldType} (h : ofName? s = some t) : t.name = s := by
  have := List.find?_some h
  simpa using this

end FieldType

/-! ## Keys -/

/-- Where the value of a primary key comes from: a counter of the database that
the declaration asks for, a serial column, or the caller. -/
inductive KeySource
  | auto
  | serial
  | supplied
  deriving DecidableEq

namespace KeySource

/-- The key sources in the order in which they are listed. -/
def all : List KeySource := [auto, serial, supplied]

/-- The name of a key source. -/
def name : KeySource → String
  | auto => "auto"
  | serial => "serial"
  | supplied => "supplied"

/-- The key source of a name. -/
def ofName? (s : String) : Option KeySource := all.find? (·.name == s)

/-- Whether the database makes the value. -/
def isGenerated : KeySource → Bool
  | auto | serial => true
  | supplied => false

end KeySource

/-- The role of a field in its table. -/
inductive Role
  | primaryKey
  | column
  deriving DecidableEq

namespace Role

/-- The roles in the order in which they are listed. -/
def all : List Role := [primaryKey, column]

/-- The name of a role. -/
def name : Role → String
  | primaryKey => "primary_key"
  | column => "column"

/-- The role of a name. -/
def ofName? (s : String) : Option Role := all.find? (·.name == s)

end Role

/-! ## Parameters -/

/-- How a database marks the parameters of a statement: a bare question mark, a
format marker, or the parameter's number after a colon or a dollar sign. -/
inductive BindStyle
  | qmark
  | format
  | numeric
  | dollar
  deriving DecidableEq

namespace BindStyle

/-- The styles in the order in which they are listed. -/
def all : List BindStyle := [qmark, format, numeric, dollar]

/-- The name of a style. -/
def name : BindStyle → String
  | qmark => "qmark"
  | format => "format"
  | numeric => "numeric"
  | dollar => "dollar"

/-- The style of a name. -/
def ofName? (s : String) : Option BindStyle := all.find? (·.name == s)

end BindStyle

/-- The default that stands for the present date or moment. -/
def nowKeyword : String := "now"

end Relvar
