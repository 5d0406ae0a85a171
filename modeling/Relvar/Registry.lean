/-
Registries: declared models in the order in which they are registered, under
names that differ. A registry is also made from the items of a value; an item
that is nothing is passed over.
-/
import Relvar.Compiler

set_option autoImplicit false

namespace Relvar

/-- A registry of declared models. -/
abbrev Registry := List ModelDecl

namespace Registry

/-- The names of the models. -/
def names (r : Registry) : List Value := r.map (·.name)

/-- The registry with one more model, unless its name is taken. -/
def add (r : Registry) (d : ModelDecl) : Except Fault Registry :=
  if r.names.any d.name.sameKey then
    .error (.declaration ⟨.registeredBefore, some d.name, none⟩)
  else .ok (r ++ [d])

/-- The writer of registries. -/
def writer : Writer := .plain "core.schema.registry"

/-- Registers the model that a source stands for; a source that is nothing stands
for none. -/
def register (r : Registry) (source name : Value) : Run Registry :=
  match source with
  | .null => pure r
  | source => do
    let d ← Compiler.declare source name
    let r ← Run.ofExcept (r.add d)
    writer.debug s!"Registered model {d.name.text} ({Decimal.ofNat d.fields.length} fields)"
    return r

/-- Registers the items of a list. -/
def registerAll (r : Registry) : List Value → Run Registry
  | [] => pure r
  | source :: rest => do
    let r ← r.register source .null
    r.registerAll rest

/-- Names and values as pairs. -/
def pairs (as : List (String × Value)) : List Value := as.map fun a => .tuple [.str a.1, a.2]

/-- The items of a value, if it has any. -/
def items? (v : Value) : Option (List Value) :=
  match v with
  | .list xs => some xs
  | .tuple xs => some xs
  | .dict es => some (es.map (·.1))
  | .bytes bs => some (bs.map fun b => .int b.toNat)
  | .registry ms => some (ms.map .model)
  | .object _ as => some (pairs as)
  | .field f => some (pairs (Value.field f).attributes)
  | .model m => some (pairs (Value.model m).attributes)
  | v => v.asText?.map fun s => s.toList.map fun c => .str (String.ofList [c])

/-- The registry of the items of a value. -/
def ofValue (v : Value) : Run Registry :=
  if v.isTruthy then
    match items? v with
    | some xs => registerAll [] xs
    | none => throw (.notIterable v.fullKind)
  else pure []

/-- The compiled models of a registry; the first fault ends it. -/
def compileAll (settings : CompilerSettings) : Registry → Run (List Compiled)
  | [] => pure []
  | d :: rest => do
    let c ← Compiler.compileDecl settings d
    let cs ← compileAll settings rest
    return c :: cs

end Registry

end Relvar
