/-
Executors of compiled models. An executor pairs instances with the plans of a
model, writes the statements in the style of its database and sends each on a
connection of its own, which is committed and closed. Values are sent as their
columns store them: a boolean column takes one or zero, a date column the text of
a date, a moment column the text of a moment; nothing stays nothing, and what a
column does not know how to store is passed on as it is. A refusal of a declaration
or of an instance is passed on; every other fault is logged and wrapped with the
operation and the entity that it concerns.
-/
import Relvar.Compiled
import Relvar.Database.Connection
import Relvar.Statement.Basic

set_option autoImplicit false

namespace Relvar

/-! ## Stored values -/

/-- A value as a column of a field type stores it. -/
def FieldType.encode (t : FieldType) (v : Value) : Value :=
  match t, v with
  | _, .null => .null
  | .boolean, v => .int (if v.isTruthy then 1 else 0)
  | .date, .moment m => .str m.date.iso
  | .date, .date d => .str d.iso
  | .dateTime, .moment m => .str m.iso
  | _, v => v

/-! ## Operations -/

namespace Operation

/-- The writer of a class of executors. -/
def writer (name : String) : Writer := .ofComponent name .repository

/-- Tells that an executor is ready. -/
def tellReady (name : String) : Run Unit := (writer name).debug s!"{name} initialized"

/-- Tells of a fault and wraps it. -/
def wrap (name operation : String) (entity : Option String) (e : Fault) : Run Fault :=
  match e with
  | .declaration _ | .binding _ => pure e
  | e => do
    let wrapped := Fault.execution operation entity e
    (writer name).error wrapped.message
    return wrapped

/-- Runs an operation and wraps its fault. -/
def guard {α : Type} (name operation : String) (entity : Option String) (m : Run α) : Run α := do
  match ← m.attempt with
  | .ok a => return a
  | .error e => throw (← wrap name operation entity e)

/-- The most characters of an entity that the log shows. -/
def shownLength : Nat := 16

/-- An entity as the log shows it. -/
def shortened (entity : String) : String :=
  if shownLength < entity.length then
    String.ofList (entity.toList.take shownLength) ++ "..."
  else entity

/-- Tells how an operation went, with details if there are any. -/
def tellDone (name : String) (success : Bool) (operation entity : String) (details : Value) :
    Run Unit := do
  let outcome := if success then operation else operation ++ " failed"
  let more := if details.isTruthy then " | " ++ details.text else ""
  let text := outcome ++ ": " ++ shortened entity ++ more
  if success then (writer name).info text else (writer name).warning text

end Operation

/-! ## Executors -/

/-- What an executor gets its connections from: a provider that a caller brings,
which may name a style, or a connector. -/
inductive Provider
  | brought (style : Option Value)
  | connector (name : ConnectorName)

namespace Provider

/-- The style that a provider names. -/
def style? : Provider → Option Value
  | brought style => style
  | connector _ => some (.str BindStyle.format.name)

/-- Does something on a connection. -/
def withConnection {α : Type} (p : Provider) (m : Run α) : Run α :=
  match p with
  | brought _ => do
    Run.ask .enter
    failOnEntry
    m.thenAlways (Run.ask .leave)
  | connector name => name.withConnection m
where
  /-- Fails if a provider fails to connect. -/
  failOnEntry : Run Unit := do
    Database.failWith (← get).script.connectError

end Provider

/-- An executor of a compiled model. -/
structure Executor where
  compiled : Compiled
  provider : Provider
  style : BindStyle

namespace Executor

/-- The class of executors. -/
def className : String := "ModelRepository"

/-- The style that is asked for, that the provider names or that the settings
give: the first that says something. -/
def chooseStyle (asked : Value) (provider : Provider) : Run BindStyle := do
  if asked.isTruthy then Run.ofExcept (BindStyle.ofValue asked)
  else match provider.style?.filter Value.isTruthy with
    | some style => Run.ofExcept (BindStyle.ofValue style)
    | none => return (← Run.settings).database.style

/-- An executor of a compiled model. -/
def make (compiled : Compiled) (provider : Provider) (asked : Value) : Run Executor := do
  Operation.tellReady className
  let style ← chooseStyle asked provider
  return ⟨compiled, provider, style⟩

/-- The name of the model. -/
def model (x : Executor) : String := x.compiled.model

/-- A value as the column of a field stores it. -/
def encode (x : Executor) (name : String) (v : Value) : Value :=
  match x.compiled.definition.field? name with
  | some f => f.type.encode v
  | none => v

/-- The values of a plan as their columns store them. -/
def encodeAll (x : Executor) (values : List (String × Value)) : List Value :=
  values.map fun e => x.encode e.1 e.2

/-- What the log calls an instance: the value of its key, or the model. -/
def entity (x : Executor) (row : Value) : String :=
  if x.compiled.keyName = "" then x.model
  else match (row.fieldValue? x.compiled.keyName).getD .null with
    | .null => x.model
    | v => v.text

/-- A statement with its parameters, if it takes any, in the style of an executor. -/
def bound (x : Executor) (statement : String) :
    Option (List Value) → Except Fault (String × Database.SentParameters)
  | none => .ok (statement, .left)
  | some params => do
    let (text, ordered) ← Statement.bind x.style statement params
    return (text, .given ordered)

/-- Sends a statement on a connection of its own and counts the rows. -/
def send (x : Executor) (statement : String) (params : Database.SentParameters) : Run Int :=
  x.provider.withConnection do
    let o ← Database.withCursor (Database.execute statement params)
    Database.commit
    return o.rows

/-- Carries out an operation by a statement and counts the rows. -/
def dispatch (x : Executor) (statement : String) (params : Option (List Value))
    (operation entity : String) : Run Int :=
  Run.within (fun context =>
      (context.set .model (.str x.model)).set .operation (.str operation)) <|
    Operation.guard className operation (some entity) do
      let (text, sent) ← Run.ofExcept (x.bound statement params)
      (Operation.writer className).debug s!"{operation}: {text}"
      x.send text sent

/-- Creates the table of the model. -/
def createTable (x : Executor) : Run Unit := do
  let _ ← x.dispatch x.compiled.table none s!"{x.model} create table" x.model
  Operation.tellDone className true "Table ensured" x.model .null

/-- Inserts an instance and counts the rows. -/
def save (x : Executor) (row : Value) : Run Int := do
  let plan ← Run.ofExcept (x.compiled.createPlan row)
  let statement := Statement.insert x.model (plan.values.map (·.1))
  let rows ← x.dispatch statement (some (x.encodeAll plan.values)) s!"{x.model} insert"
    (x.entity row)
  Operation.tellDone className true s!"{x.model} inserted" (x.entity row) .null
  return rows

/-- The count of rows as details. -/
def rowDetails (rows : Int) : Value := .dict [(.str "rows", .int rows)]

/-- Updates an instance and counts the rows. Without fields to update nothing is
sent. -/
def update (x : Executor) (row : Value) : Run Int := do
  let plan ← Run.ofExcept (x.compiled.updatePlan row)
  let entity := plan.keyValue.text
  if plan.values.isEmpty then
    (Operation.writer className).warning
      s!"{x.model} has no updatable fields, skipping update of {entity}"
    return 0
  else
    let statement := Statement.update x.model plan.key (plan.values.map (·.1))
    let params := x.encodeAll (plan.values ++ [(plan.key, plan.keyValue)])
    let rows ← x.dispatch statement (some params) s!"{x.model} update" entity
    Operation.tellDone className (0 < rows) s!"{x.model} updated" entity (rowDetails rows)
    return rows

/-- Deletes an instance and counts the rows. -/
def delete (x : Executor) (row : Value) : Run Int := do
  let key ← Run.ofExcept (x.compiled.deleteValue row)
  let entity := key.text
  let params := x.encodeAll [(x.compiled.keyName, key)]
  let rows ← x.dispatch x.compiled.delete (some params) s!"{x.model} delete" entity
  Operation.tellDone className (0 < rows) s!"{x.model} deleted" entity (rowDetails rows)
  return rows

end Executor

end Relvar
