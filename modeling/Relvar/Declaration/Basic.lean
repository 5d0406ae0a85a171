/-
Building declarations from values. A declared field needs a name, may have any
value for its type, and takes modifiers whose keys spell text. A declared model
needs a name and declared fields; a mapping with the entries of a declared field
counts as one.
-/
import Relvar.Value.Dict
import Relvar.Value.Spelled

set_option autoImplicit false

namespace Relvar

/-! ## Fields -/

namespace FieldDecl

/-- How the way to an offending part names a key that spells no text: an integer
as itself, if it fits in 64 bits, and all else by its display. -/
def keyPlace (k : Value) : Place :=
  match k with
  | .bool b => .index (if b then 1 else 0)
  | .int n => if Value.fitsWord n then .index n else .name k.display
  | k => .name k.display

/-- The offences of the keys of modifiers. -/
def keyOffences (place : List Place) (es : List (Value × Value)) : List Offence :=
  es.filterMap fun e => match e.1.spelledText with
    | .ok _ => none
    | .error kind => some ⟨kind, place ++ [keyPlace e.1, .name "[key]"]⟩

/-- The entries under the texts that their keys spell. -/
def spelledEntries (es : List (Value × Value)) : List (String × Value) :=
  es.foldl (fun ms e => match e.1.spelledText with
    | .ok name => Dict.insertNamed ms name e.2
    | .error _ => ms) []

/-- Modifiers from a value: a mapping whose keys spell text. -/
def checkModifiers (place : List Place) (v : Value) : Checked (List (String × Value)) :=
  match v.asMapping? with
  | none => .error [⟨.notMapping, place⟩]
  | some es =>
    let offences := keyOffences place es
    if offences.isEmpty then .ok (spelledEntries es) else .error offences

/-- A part that may be missing, checked. -/
def checkPart {α : Type} (place : List Place) (name : String)
    (check : List Place → Value → Checked α) (part : Option Value) : Checked α :=
  let place := place ++ [.name name]
  match part with
  | some v => check place v
  | none => .error [⟨.absent, place⟩]

/-- A declared field from values, with the way to it in front of each offence. -/
def check (place : List Place) (name declared modifiers : Option Value) : Checked FieldDecl :=
  Checked.start FieldDeclOf.mk
    |>.with (checkPart place "name" Value.checkName name)
    |>.with (checkPart place "declared_type" (fun _ v => .ok v) declared)
    |>.with (checkPart place "modifiers" checkModifiers modifiers)

/-- A declared field from values. -/
def ofValues (name declared modifiers : Value) : Except Invalid FieldDecl :=
  (check [] (some name) (some declared) (some modifiers)).mapError (Invalid.mk "FieldDeclaration")

end FieldDecl

/-! ## Models -/

namespace ModelDecl

/-- A declared field from a value that should be one. -/
def checkField (index : Nat) (v : Value) : Checked FieldDecl :=
  let place : List Place := [.name "fields", .index index]
  match v with
  | .field f => .ok f
  | .dict es =>
    let part := fun name => Dict.find? es (.str name)
    let modifiers := (part "modifiers").getD (.dict [])
    FieldDecl.check place (part "name") (part "declared_type") (some modifiers)
  | _ => .error [⟨.notRecord, place⟩]

/-- Declared fields from values that should be some. -/
def checkFields (index : Nat) : List Value → Checked (List FieldDecl)
  | [] => .ok []
  | v :: vs => match checkField index v, checkFields (index + 1) vs with
    | .ok f, .ok fs => .ok (f :: fs)
    | f, fs => .error (Checked.offences f ++ Checked.offences fs)

/-- A declared model from values. -/
def ofValues (name : Value) (fields : List Value) : Except Invalid ModelDecl :=
  match name.checkName [.name "name"], checkFields 0 fields with
  | .ok n, .ok fs => .ok ⟨.str n, fs⟩
  | n, fs => .error ⟨"ModelDeclaration", Checked.offences n ++ Checked.offences fs⟩

end ModelDecl

end Relvar
