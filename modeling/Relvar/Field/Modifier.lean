/-
Modifiers of a declared field. Each key takes one kind of value: the three flags
a boolean, the size a positive integer, the default a literal, the foreign key a
text of a table and a column with a point between them. A size says something of
a string only and is dropped elsewhere. The modifiers are taken in their order,
and the first offending one refuses them all.
-/
import Relvar.Declaration.Error
import Relvar.Field.Basic

set_option autoImplicit false

namespace Relvar

/-! ## Foreign keys -/

namespace Reference

/-- The pieces of a text between the points in it: one more than there are
points. -/
def pieces : List Char → List (List Char)
  | [] => [[]]
  | c :: s =>
    if c = '.' then [] :: pieces s
    else match pieces s with
      | p :: ps => (c :: p) :: ps
      | [] => [[c]]

/-- The reference that a text stands for: two pieces that are not empty. -/
def ofText? (s : String) : Option Reference :=
  match pieces s.toList with
  | [t, c] =>
    if t.isEmpty || c.isEmpty then none else some ⟨String.ofList t, String.ofList c⟩
  | _ => none

/-- The reference that a value stands for, or why it stands for none. -/
def parse (v : Value) : Except Cause Reference :=
  match v.asText? with
  | none => .error (.foreignKeyNotText v)
  | some s => match ofText? s with
    | some r => .ok r
    | none => .error (.malformedForeignKey v)

end Reference

/-! ## Modifiers -/

/-- What a modifier says of a field. A size and a default are kept with the value
that gives them. -/
inductive Modifier
  | primaryKey (b : Bool)
  | auto (b : Bool)
  | unique (b : Bool)
  | size (n : Int) (given : Value)
  | default (l : Literal) (given : Value)
  | foreignKey (r : Reference)

namespace Modifier

/-- A value that should be a boolean, under a key that is spelled in some way. -/
def flag (spelled : Value) (make : Bool → Modifier) : Value → Except Cause Modifier
  | .bool b => .ok (make b)
  | v => .error (.notBool spelled v)

/-- What a key says with a value, or why it says nothing. -/
def parse (key : ModifierKey) (spelled v : Value) : Except Cause Modifier :=
  match key with
  | .primaryKey => flag spelled primaryKey v
  | .auto => flag spelled auto v
  | .unique => flag spelled unique v
  | .size => match v.asInt? with
    | some n => if n < 1 then .error (.notSize v) else .ok (size n v)
    | none => .error (.notSize v)
  | .default => match Literal.ofValue? v with
    | some l => .ok (default l v)
    | none => .error (.notDefault v)
  | .foreignKey => (Reference.parse v).map foreignKey

/-- What an entry of a mapping says, or why it says nothing. -/
def ofEntry (key v : Value) : Except Cause Modifier :=
  match key.asText?.bind ModifierKey.ofName? with
  | some k => parse k key v
  | none => .error (.unknownModifier key)

/-- Whether a modifier says something of a field of a type. -/
def appliesTo (type : FieldType) : Modifier → Bool
  | size _ _ => type = .string
  | _ => true

/-- What the entries of a mapping say of a field of a type, in their order. -/
def ofEntries (type : FieldType) : List (Value × Value) → Except Cause (List Modifier)
  | [] => .ok []
  | (k, v) :: es => do
    let m ← ofEntry k v
    let ms ← ofEntries type es
    return if m.appliesTo type then m :: ms else ms

/-- The field with what a modifier says of it. -/
def apply (f : Field) : Modifier → Field
  | primaryKey b => { f with isPrimaryKey := b }
  | auto b => { f with isAuto := b }
  | unique b => { f with isUnique := b }
  | size n _ => { f with size := some n }
  | default l _ => { f with hasDefault := true, default := some l }
  | foreignKey r => { f with reference := some r }

end Modifier

end Relvar
