/-
The primary key of a model. The first field that is marked is the key, and a
second one is refused. The key's source says whether a caller passes its value.
-/
import Relvar.Fault
import Relvar.Field.Basic

set_option autoImplicit false

namespace Relvar

/-- The key of a model: the name of its field and where its value comes from. -/
structure PrimaryKey where
  name : String
  source : KeySource
  deriving DecidableEq

namespace PrimaryKey

/-- The key that a field is, if it is marked. -/
def ofField (f : Field) : PrimaryKey := ⟨f.name, f.keySource⟩

/-- The name of a key that may be missing: then it is empty. -/
def nameOf (key : Option PrimaryKey) : String := (key.map name).getD ""

/-- The role of a field after the key found so far, and the key found with it. -/
def observe (known : Option PrimaryKey) (f : Field) :
    Except DeclError (Role × Option PrimaryKey) :=
  if f.isPrimaryKey then
    match known with
    | some key => .error ⟨.secondKey key.name, none, some (.str f.name)⟩
    | none => .ok (.primaryKey, some (ofField f))
  else .ok (.column, known)

/-- The key of several fields after the key found before them. -/
def resolveFrom (known : Option PrimaryKey) : List Field → Except DeclError (Option PrimaryKey)
  | [] => .ok known
  | f :: fs => do
    let (_, key) ← observe known f
    resolveFrom key fs

/-- The key of several fields. -/
def resolve (fs : List Field) : Except DeclError (Option PrimaryKey) := resolveFrom none fs

end PrimaryKey

end Relvar
