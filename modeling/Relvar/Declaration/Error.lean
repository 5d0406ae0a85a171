/-
Why a declaration is refused. An error has a cause, which knows the values that
it speaks of, and says which model and which field it is about as far as that is
known where it arises. A model that is not known yet is attached later, once:
the first name stays.
-/
import Relvar.Value.Display

set_option autoImplicit false

namespace Relvar

/-- The families of causes. -/
inductive ErrorCode
  | configuration
  | unsupportedFieldType
  | unsupportedShape
  | invalidForeignKey
  | invalidDefault
  | invalidModifier
  | multiplePrimaryKeys
  | missingPrimaryKey
  | duplicateModel
  deriving DecidableEq

/-- The families in the order in which they are listed. -/
def ErrorCode.all : List ErrorCode :=
  [.configuration, .unsupportedFieldType, .unsupportedShape, .invalidForeignKey, .invalidDefault,
    .invalidModifier, .multiplePrimaryKeys, .missingPrimaryKey, .duplicateModel]

/-- The name of a family. -/
def ErrorCode.name : ErrorCode → String
  | .configuration => "ConfigurationError"
  | .unsupportedFieldType => "UnsupportedFieldType"
  | .unsupportedShape => "UnsupportedStructShape"
  | .invalidForeignKey => "InvalidForeignKeySpec"
  | .invalidDefault => "InvalidDefaultForType"
  | .invalidModifier => "InvalidModifier"
  | .multiplePrimaryKeys => "MultiplePrimaryKeys"
  | .missingPrimaryKey => "MissingPrimaryKey"
  | .duplicateModel => "DuplicateModel"

/-- The modifiers that a field may have, in the order in which they are listed. -/
inductive ModifierKey
  | primaryKey
  | auto
  | unique
  | size
  | default
  | foreignKey
  deriving DecidableEq

namespace ModifierKey

/-- The keys in the order in which they are listed. -/
def all : List ModifierKey := [primaryKey, auto, unique, size, default, foreignKey]

/-- The name of a key. -/
def name : ModifierKey → String
  | primaryKey => "primary_key"
  | auto => "auto"
  | unique => "unique"
  | size => "size"
  | default => "default"
  | foreignKey => "foreign_key"

/-- The key of a name. -/
def ofName? (s : String) : Option ModifierKey := all.find? (·.name == s)

end ModifierKey

/-- Why a declaration is refused. -/
inductive Cause
  | unexpectedType (label : String)
  | notOptional (shown : String)
  | foreignKeyNotText (got : Value)
  | malformedForeignKey (got : Value)
  | notBool (key got : Value)
  | notSize (got : Value)
  | notDefault (got : Value)
  | unknownModifier (key : Value)
  | notRecordClass (got : Value)
  | objectGiven (kind : String)
  | nameRequired
  | notFieldList (kind : String)
  | notModifiers (got : Value)
  | malformedField (got : Value)
  | notFieldName (key : Value)
  | noFields
  | secondKey (first : String)
  | missingKey
  | nowNotTemporal (type : FieldType)
  | registeredBefore
  | stated (code : ErrorCode) (text : String)

namespace Cause

/-- The family of a cause. -/
def code : Cause → ErrorCode
  | unexpectedType _ | notOptional _ => .unsupportedFieldType
  | malformedForeignKey _ => .invalidForeignKey
  | foreignKeyNotText _ | notBool _ _ | notSize _ | notDefault _ | unknownModifier _ =>
    .invalidModifier
  | notRecordClass _ | objectGiven _ | nameRequired | notFieldList _ | notModifiers _
  | malformedField _ | notFieldName _ | noFields => .unsupportedShape
  | secondKey _ => .multiplePrimaryKeys
  | missingKey => .missingPrimaryKey
  | nowNotTemporal _ => .invalidDefault
  | registeredBefore => .duplicateModel
  | stated code _ => code

/-- Names in single quotes, with commas between them. -/
def quotedNames (names : List String) : String :=
  ", ".intercalate (names.map fun n => "'" ++ n ++ "'")

/-- What is said of a cause. -/
def message : Cause → String
  | unexpectedType label =>
    s!"unexpected field type {Text.quote label}, expected one of: " ++
      quotedNames (FieldType.all.map FieldType.name)
  | notOptional shown => s!"union type {shown} is not an optional wrapper"
  | foreignKeyNotText got => s!"foreign_key must be a 'table.column' string, got {got.display}"
  | malformedForeignKey got => s!"invalid foreign key {got.display}, expected 'table.column'"
  | notBool key got => s!"{key.text} must be a bool, got {got.display}"
  | notSize got => s!"size must be a positive integer, got {got.display}"
  | notDefault got =>
    s!"default must be a string, bool or integer literal, got {got.display}"
  | unknownModifier key =>
    s!"unknown modifier {key.display}, expected one of: " ++
      ", ".intercalate (ModifierKey.all.map ModifierKey.name)
  | notRecordClass got => s!"expected a pydantic model class, got {got.display}"
  | objectGiven kind => s!"expected a model class, got an instance of {kind}"
  | nameRequired => "a model name is required for a bare field list"
  | notFieldList kind => s!"expected a named-field list, got {kind}"
  | notModifiers got => s!"modifiers must be a mapping, got {got.display}"
  | malformedField got => s!"unnamed or malformed field declaration {got.display}"
  | notFieldName key => s!"field names must be non-empty strings, got {key.display}"
  | noFields => "model declares no fields"
  | secondKey first => s!"primary key already declared on {Text.quote first}"
  | missingKey => "no field is marked primary_key"
  | nowNotTemporal type => s!"'now' works only with Date or DateTime, not {type.name}"
  | registeredBefore => "model already registered"
  | stated _ text => text

end Cause

/-- The refusal of a declaration: the cause, and the model and field it is about,
by the values that name them. -/
structure DeclError where
  cause : Cause
  model : Option Value
  field : Option Value

namespace DeclError

/-- The name of the family that the cause belongs to. -/
def code (e : DeclError) : String := e.cause.code.name

/-- A part of the place of an error: a name that is known and counts as true. -/
def placePart (label : String) : Option Value → List String
  | none => []
  | some v => if v.isTruthy then [label ++ "=" ++ v.text] else []

/-- The refusal in full: the family, what is said of the cause, and the place. -/
def message (e : DeclError) : String :=
  let place := placePart "model" e.model ++ placePart "field" e.field
  if place.isEmpty then s!"{e.code}: {e.cause.message}"
  else s!"{e.code}: {e.cause.message} (" ++ ", ".intercalate place ++ ")"

/-- The error with the model attached, unless it has one. Nothing is no model. -/
def withModel (e : DeclError) (model : Value) : DeclError :=
  { e with model := e.model.or model.given? }

end DeclError

end Relvar
