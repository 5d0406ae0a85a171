/-
Record classes as declarations. The table is the one that the class names, or
its own name. A field's type is its annotation, unless an extra entry names
another; the annotation then still says whether the field is optional. The
modifiers are the extra entries that are modifiers, in the order in which
modifiers are listed, then the size and the default that the field implies.
-/
import Relvar.Declaration.Shape
import Relvar.Field.Extract

set_option autoImplicit false

namespace Relvar

/-- The extra entry that names the type of a field. -/
def typeEntry : String := "sql_type"

namespace ClassField

/-- What a member of an enumeration stands for. -/
def payload : Value → Value
  | .member _ _ v => v
  | .semantic t => .str t.name
  | v => v

/-- The default of a column that a preset implies: the present if the preset
reads the clock, or a literal. -/
def impliedDefault? : Preset Value → Option Value
  | .clock => some (.str nowKeyword)
  | .value v =>
    let v := payload v
    if (Literal.ofValue? v).isSome then some v else none
  | .required | .factory _ => none

/-- A modifier, unless its key is among the modifiers that are given. -/
def unlessGiven (given : List (ModifierKey × Value)) (key : ModifierKey) (v : Option Value) :
    List (ModifierKey × Value) :=
  if given.any (·.1 == key) then [] else (v.map (key, ·)).toList

/-- The modifiers of a field. -/
def modifiers (f : ClassField) : List (ModifierKey × Value) :=
  let given := ModifierKey.all.filterMap fun k => (Dict.find? f.extra (.str k.name)).map (k, ·)
  given ++ unlessGiven given .size (f.maxLength.map .int) ++
    unlessGiven given .default (impliedDefault? f.preset)

/-- The declared type of a field. -/
def declaredType (f : ClassField) : Except Cause Value :=
  match (Dict.find? f.extra (.str typeEntry)).getD .null with
  | .null => .ok f.annotation
  | named => do
    let (_, nullable) ← TypeName.unwrap f.annotation
    let type ← TypeName.resolve named
    return .str (if nullable then s!"Optional[{type.name}]" else type.name)

/-- The modifiers of a field as a mapping. -/
def options (f : ClassField) : Value :=
  .dict (Dict.ofStrings (f.modifiers.map fun m => (m.1.name, m.2)))

/-- The declared field of a field. -/
def declaration (f : ClassField) : Except Fault FieldDecl := do
  let type ← (Cause.about (some (.str f.name)) f.declaredType).mapError .declaration
  (FieldDecl.ofValues (.str f.name) type f.options).mapError .invalid

/-- The declared fields of several fields. -/
def declarations : List ClassField → Except Fault (List FieldDecl)
  | [] => .ok []
  | f :: fs => do
    let d ← f.declaration
    let ds ← declarations fs
    return d :: ds

end ClassField

namespace RecordClass

/-- The name of the table of a class. -/
def tableName (c : RecordClass) : Value := (c.table.filter Value.isTruthy).getD (.str c.name)

/-- The declared fields of a class. -/
def declaredFields (c : RecordClass) : Except Fault (List FieldDecl) :=
  (ClassField.declarations c.fields).mapError (·.withModel c.tableName)

/-- The declared model of a class. -/
def declaration (c : RecordClass) : Except Fault ModelDecl := do
  let fields ← c.declaredFields
  ModelDecl.named c.tableName fields

end RecordClass

namespace ModelDecl

/-- The declared model of a record class, given as a value. -/
def ofClass : Value → Except Fault ModelDecl
  | .recordClass c => RecordClass.declaration c
  | v => .error (.declaration ⟨.notRecordClass v, none, none⟩)

/-- The declared model under another name, if one is given. A name that equals
its own changes nothing. Any other is taken as it is: one that is no text is
refused only when a definition is built. -/
def renamed (name : Value) (m : ModelDecl) : ModelDecl :=
  if name.isTruthy && !name.sameKey m.name then { m with name := name } else m

/-- The refusal of an instance where a class is expected. -/
def refuseObject (name : Value) (kind : String) : Fault :=
  .declaration ⟨.objectGiven kind, name.given?, none⟩

/-- The declared model that a source of any shape stands for. A name renames a
record class, is needed for a list or mapping, and does nothing to a declared
model. -/
def ofSource (source name : Value) : Except Fault ModelDecl :=
  match source with
  | .model m => .ok m
  | .recordClass c => (RecordClass.declaration c).map (renamed name)
  | .object kind _ => .error (refuseObject name kind)
  | .field f => .error (refuseObject name (Value.field f).kind)
  | source => ofFields source name

end ModelDecl

end Relvar
