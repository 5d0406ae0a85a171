/-
The context of a log line: the model, field and operation that it concerns, and
the component that wrote it. Contexts nest. An inner one overrides the parts it
names, and naming a part with nothing clears it.
-/
import Relvar.Fault
import Relvar.Value.Dict

set_option autoImplicit false

namespace Relvar.Log

/-- The parts of a context. -/
inductive ContextPart
  | model
  | fieldName
  | operation
  | component
  deriving DecidableEq

namespace ContextPart

/-- The parts in the order in which they are listed. -/
def all : List ContextPart := [model, fieldName, operation, component]

/-- The name of a part. -/
def name : ContextPart → String
  | model => "model"
  | fieldName => "field_name"
  | operation => "operation"
  | component => "component"

/-- The part of a name. -/
def ofName? (s : String) : Option ContextPart := all.find? (·.name == s)

end ContextPart

/-- A context. A part that says nothing is null. -/
structure Context where
  model : Value
  fieldName : Value
  operation : Value
  component : Value

namespace Context

/-- The context that says nothing. -/
def empty : Context := ⟨.null, .null, .null, .null⟩

/-- What a context says in a part. -/
def get (c : Context) : ContextPart → Value
  | .model => c.model
  | .fieldName => c.fieldName
  | .operation => c.operation
  | .component => c.component

/-- The context with something else said in a part. -/
def set (c : Context) (part : ContextPart) (v : Value) : Context :=
  match part with
  | .model => { c with model := v }
  | .fieldName => { c with fieldName := v }
  | .operation => { c with operation := v }
  | .component => { c with component := v }

/-- The context with a part overridden, by name. -/
def override (c : Context) (name : String) (v : Value) : Except Fault Context :=
  match ContextPart.ofName? name with
  | some part => .ok (c.set part v)
  | none => .error (.unknownContextKey name)

/-- The context with parts overridden, by name. -/
def overrideAll (c : Context) : List (String × Value) → Except Fault Context
  | [] => .ok c
  | (name, v) :: rest => do
    let c ← c.override name v
    c.overrideAll rest

/-- The parts that say something. -/
def entries (c : Context) : List (Value × Value) :=
  ContextPart.all.filterMap fun p =>
    match c.get p with
    | .null => none
    | v => some (.str p.name, v)

end Context

/-- The innermost of nested contexts, the innermost first. -/
def innermost (contexts : List Context) : Context := contexts.head?.getD Context.empty

end Relvar.Log
