/-
The arguments of the operations on a model. A caller who creates an instance
passes every field that is neither made by the database nor has a default; a
caller who updates one passes every field but the key. The fields are added one
at a time, and a default takes back only what its own field has added.
-/
import Relvar.Field.Basic

set_option autoImplicit false

namespace Relvar

/-- The names of the fields that the operations take, in declaration order. -/
structure Arguments where
  create : List String
  update : List String
  deriving DecidableEq

namespace Arguments

/-- No arguments. -/
def empty : Arguments := ⟨[], []⟩

/-- Whether a caller passes the value of a field in its role. -/
def isPassed (role : Role) (source : Option KeySource) : Bool :=
  match role, source with
  | .column, _ => true
  | .primaryKey, some s => !s.isGenerated
  | .primaryKey, none => true

/-- The arguments after a field in its role is added. -/
def add (a : Arguments) (f : Field) (role : Role) (source : Option KeySource) : Arguments :=
  let passed := isPassed role source
  let create := if passed then a.create ++ [f.name] else a.create
  { create := if f.hasDefault && passed then create.dropLast else create
    update := if role = .column then a.update ++ [f.name] else a.update }

end Arguments

end Relvar
