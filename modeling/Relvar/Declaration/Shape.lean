/-
The shapes of declarations. A model may be declared by a declared model, by a
list of fields, or by a mapping from names to fields; a field of a list is a
declared field or a tuple of a name, a type and modifiers, and a field of a
mapping leaves out the name. What has none of these shapes is refused. A list or
mapping does not name its model, so a name is asked for.
-/
import Relvar.Declaration.Basic
import Relvar.Declaration.Error
import Relvar.Fault

set_option autoImplicit false

namespace Relvar

namespace FieldDecl

/-- The refusal of a field of a model. -/
def refuse {α : Type} (model : Value) (field : Option Value) (c : Cause) : Except Fault α :=
  .error (.declaration ⟨c, some model, field⟩)

/-- The declared field of a name, a type and modifiers. -/
def ofTriple (model : Value) (name declared modifiers : Value) : Except Fault FieldDecl :=
  match modifiers.asMapping? with
  | none => refuse model (some name) (.notModifiers modifiers)
  | some _ => (ofValues name declared modifiers).mapError .invalid

/-- Whether a value is text that is not empty. -/
def isName (v : Value) : Bool := v.asText?.any (· != "")

/-- The declared field that an item of a list stands for. -/
def ofItem (model : Value) (item : Value) : Except Fault FieldDecl :=
  match item with
  | .field f => .ok f
  | .tuple [name, declared] =>
    if isName name then ofTriple model name declared (.dict [])
    else refuse model none (.malformedField item)
  | .tuple [name, declared, modifiers] =>
    if isName name then ofTriple model name declared modifiers
    else refuse model none (.malformedField item)
  | _ => refuse model none (.malformedField item)

/-- The declared field that an entry of a mapping stands for. -/
def ofEntry (model : Value) (key value : Value) : Except Fault FieldDecl :=
  if isName key then
    match value with
    | .field f => .ok f
    | .tuple items => ofItem model (.tuple (key :: items))
    | declared => (ofValues key declared (.dict [])).mapError .invalid
  else refuse model none (.notFieldName key)

/-- The declared fields of the items of a list. -/
def ofItems (model : Value) : List Value → Except Fault (List FieldDecl)
  | [] => .ok []
  | x :: xs => do
    let f ← ofItem model x
    let fs ← ofItems model xs
    return f :: fs

/-- The declared fields of the entries of a mapping. -/
def ofEntries (model : Value) : List (Value × Value) → Except Fault (List FieldDecl)
  | [] => .ok []
  | (k, v) :: es => do
    let f ← ofEntry model k v
    let fs ← ofEntries model es
    return f :: fs

end FieldDecl

namespace ModelDecl

/-- The declared model of a name and declared fields. -/
def named (name : Value) (fields : List FieldDecl) : Except Fault ModelDecl :=
  (ofValues name (fields.map .field)).mapError .invalid

/-- The declared fields that a list or a mapping stands for. -/
def fieldsOf (model : Value) : Value → Except Fault (List FieldDecl)
  | .dict es => FieldDecl.ofEntries model es
  | .list xs => FieldDecl.ofItems model xs
  | .tuple xs => FieldDecl.ofItems model xs
  | v => FieldDecl.refuse model none (.notFieldList v.kind)

/-- The declared model that a list or a mapping stands for under a name. -/
def ofFields (source name : Value) : Except Fault ModelDecl := do
  unless name.isTruthy do throw (.declaration ⟨.nameRequired, none, none⟩)
  let fields ← fieldsOf name source
  named name fields

end ModelDecl

end Relvar
