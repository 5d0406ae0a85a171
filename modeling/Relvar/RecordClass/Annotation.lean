/-
Annotations of the fields of record classes. The names inside an annotation are
replaced by what they stand for, if each stands for something: a built-in class,
or the record class whose field is annotated. Otherwise the annotation stays as
it is, and text is then a name that is not resolved. Nothing annotates with the
empty class.
-/
import Relvar.TypeForm.Written
import Relvar.Value.Form

set_option autoImplicit false

namespace Relvar.ClassField

/-- A record class of which only the name is known. -/
def classNamed (name : String) : RecordClass := ⟨name, none, []⟩

/-- The annotation that a form stands for in a class of a name. -/
def annotationOfForm (name : String) (f : TypeForm) : TypeForm :=
  (f.resolved? [(name, Value.classForm (classNamed name))]).getD f

/-- The annotation that a value stands for in a class of a name. -/
def annotationOf (name : String) : Value → Except Fault Value
  | .null => .ok (.type (.named .none))
  | .type f => .ok (.type (annotationOfForm name f))
  | v => match v.asText? with
    | some s =>
      if s = name then .ok (.recordClass (classNamed name))
      else (Value.unresolved s v.display).map fun f => .type (annotationOfForm name f)
    | none => .ok v

/-- The names that a field may not have start with a low line; the refusal proposes
another one. -/
def checkName (name : String) : Except Fault Unit :=
  if name.toList.head? = some '_' then
    let rest := name.toList.dropWhile (· = '_')
    .error (.reservedName name (if rest.isEmpty then "my_field" else String.ofList rest))
  else .ok ()

end Relvar.ClassField
