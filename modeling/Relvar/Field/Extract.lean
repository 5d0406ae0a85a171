/-
Extraction: from a declared field to a field. The type is unwrapped and
resolved, then the modifiers are taken. A refusal names the field, and the model
is attached when the model's fields are extracted together.
-/
import Relvar.Declaration.Basic
import Relvar.Fault
import Relvar.Field.TypeName
import Relvar.Field.Modifier

set_option autoImplicit false

namespace Relvar

/-- The refusal with the field that it is about. -/
def Cause.about {α : Type} (field : Option Value) (r : Except Cause α) : Except DeclError α :=
  r.mapError fun c => ⟨c, none, field⟩

/-- The field type that a declared type names, and whether it is optional. -/
def FieldType.ofDeclared (v : Value) : Except Cause (FieldType × Bool) := do
  let (inner, nullable) ← TypeName.unwrap v
  let type ← TypeName.resolve inner
  return (type, nullable)

namespace Field

/-- The field that a name, a declared type and modifiers stand for. -/
def ofParts (name : String) (declared : Value) (modifiers : List (Value × Value)) :
    Except Cause Field := do
  let (type, nullable) ← FieldType.ofDeclared declared
  let ms ← Modifier.ofEntries type modifiers
  return ms.foldl Modifier.apply (plain name type nullable)

/-- The field that a declared field stands for. -/
def extract (d : FieldDecl) : Except DeclError Field :=
  Cause.about (some (.str d.name)) (ofParts d.name d.type (Dict.ofStrings d.modifiers))

/-- The fields that declared fields stand for; the first refusal ends it. -/
def extractAll : List FieldDecl → Except DeclError (List Field)
  | [] => .ok []
  | d :: ds => do
    let f ← extract d
    let fs ← extractAll ds
    return f :: fs

end Field

/-- The definition that a declared model stands for. -/
def Definition.extract (d : ModelDecl) : Except Fault Definition :=
  match Field.extractAll d.fields with
  | .ok fs => (Definition.ofValues d.name fs).mapError .invalid
  | .error e => .error (.declaration (e.withModel d.name))

end Relvar
