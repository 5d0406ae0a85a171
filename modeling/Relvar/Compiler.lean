/-
Compiling models. The fields go through every stage one at a time: a field is
extracted, its role found, its arguments added and its clause written before the
next one is looked at. The first fault ends the compilation, and nothing partial
is returned. A compilation keeps the fields that passed, because the log tells
of each of them.
-/
import Relvar.Column
import Relvar.Compiled
import Relvar.RecordClass.Declaration
import Relvar.Session
import Relvar.Statement.Basic

set_option autoImplicit false

namespace Relvar

/-! ## Fields -/

/-- What the fields looked at so far have become. -/
structure Draft where
  key : Option PrimaryKey
  arguments : Arguments
  clauses : List String
  planned : List (Field × Role)

namespace Draft

/-- The draft without fields. -/
def empty : Draft := ⟨none, .empty, [], []⟩

/-- The draft after one more field. -/
def add (settings : CompilerSettings) (d : Draft) (f : Field) : Except Fault Draft := do
  let (role, key) ← (PrimaryKey.observe d.key f).mapError .declaration
  let source := if role = .primaryKey then key.map (·.source) else none
  let clause ← f.clause role source settings.stringSize
  return {
    key := key
    arguments := d.arguments.add f role source
    clauses := d.clauses ++ [clause]
    planned := d.planned ++ [(f, role)] }

/-- The draft after as many of several fields as pass, and the fault that stopped
it, if any. -/
def advance {α : Type} (settings : CompilerSettings) (extract : α → Except Fault Field)
    (d : Draft) : List α → Draft × Option Fault
  | [] => (d, none)
  | x :: xs =>
    match extract x with
    | .error e => (d, some e)
    | .ok f => match d.add settings f with
      | .error e => (d, some e)
      | .ok next => next.advance settings extract xs

/-- The fields that passed. -/
def fields (d : Draft) : List Field := d.planned.map (·.1)

/-- The compiled model of a draft, under the text that the model's name spells. The
statements take the name by its text. -/
def finish (d : Draft) (model : Value) : Except Fault Compiled := do
  let definition ← (Definition.ofValues model d.fields).mapError .invalid
  return {
    model := definition.name
    table := createTable model.text d.clauses
    key := d.key
    arguments := d.arguments
    delete := Statement.delete model.text (PrimaryKey.nameOf d.key)
    definition := definition }

end Draft

/-! ## Models -/

/-- How a compilation went: the fields that passed, with their roles, whether they
were found to have no key among them, and the result. -/
structure Compilation where
  model : Value
  planned : List (Field × Role)
  isKeyless : Bool
  result : Except Fault Compiled

namespace Compilation

/-- The refusal of a model as a whole. -/
def refuse (model : Value) (c : Cause) : Fault := .declaration ⟨c, some model, none⟩

/-- The end of a compilation whose draft all fields have passed. -/
def conclude (settings : CompilerSettings) (model : Value) (d : Draft) : Compilation :=
  let isKeyless := PrimaryKey.nameOf d.key = ""
  if isKeyless && settings.requiresKey then
    ⟨model, d.planned, false, .error (refuse model .missingKey)⟩
  else ⟨model, d.planned, isKeyless, d.finish model⟩

/-- The compilation of the fields of a model. -/
def ofFields {α : Type} (settings : CompilerSettings) (model : Value)
    (extract : α → Except Fault Field) (xs : List α) : Compilation :=
  if xs.isEmpty then ⟨model, [], false, .error (refuse model .noFields)⟩
  else
    match Draft.empty.advance settings extract xs with
    | (d, some e) => ⟨model, d.planned, false, .error (e.withModel model)⟩
    | (d, none) => conclude settings model d

/-- The compilation of a declared model. -/
def ofDecl (settings : CompilerSettings) (d : ModelDecl) : Compilation :=
  ofFields settings d.name (fun f => (Field.extract f).mapError .declaration) d.fields

/-- The compilation of a definition. -/
def ofDefinition (settings : CompilerSettings) (d : Definition) : Compilation :=
  ofFields settings (.str d.name) .ok d.fields

end Compilation

/-! ## Log -/

namespace Compiler

/-- The writer of the compiler. -/
def writer : Writer := .ofComponent "core.schema.compiler" .compiler

/-- Tells of the fields that passed. -/
def tellPlanned : List (Field × Role) → Run Unit
  | [] => pure ()
  | (f, role) :: rest => do
    Run.within (·.set .fieldName (.str f.name))
      (writer.debug s!"Planned {f.type.name} field as {role.name}")
    tellPlanned rest

/-- Tells of a model without a key. -/
def tellKeyless (model : Value) : Run Unit :=
  writer.warning s!"Model {model.text} has no primary key; update and delete are unavailable"

/-- Tells of a compiled model. -/
def tellCompiled (model : Value) (c : Compiled) : Run Unit := do
  let columns := Decimal.ofNat c.definition.fields.length
  let created := Decimal.ofNat c.arguments.create.length
  let updated := Decimal.ofNat c.arguments.update.length
  let counts := s!"{columns} columns, {created} create args, {updated} update args"
  writer.info s!"Compiled model {model.text}: {counts}"

/-- Tells why a model is refused. Other faults are not told. -/
def tellRefused (model : Value) : Fault → Run Unit
  | .declaration e =>
    Run.within (·.set .fieldName (e.field.getD .null))
      (writer.error s!"Generation aborted for {model.text}: {e.message}")
  | _ => pure ()

/-- Tells how a compilation went and ends with its result. -/
def tell (c : Compilation) : Run Compiled :=
  Run.within (fun context =>
      (context.set .model c.model).set .operation (.str "compile")) do
    tellPlanned c.planned
    if c.isKeyless then tellKeyless c.model
    match c.result with
    | .ok compiled =>
      tellCompiled c.model compiled
      return compiled
    | .error e =>
      tellRefused c.model e
      throw e

/-! ## Sources -/

/-- The writer that tells of declarations read from record classes. -/
def sourceWriter : Writer := .plain "core.schema.extractor"

/-- Tells of a record class whose fields are declared. -/
def tellSource : Value → Run Unit
  | .recordClass c => match RecordClass.declaredFields c with
    | .ok fields =>
      sourceWriter.debug
        s!"Read {Decimal.ofNat fields.length} fields from pydantic model {c.name}"
    | .error _ => pure ()
  | _ => pure ()

/-- The declared model that a source stands for. -/
def declare (source name : Value) : Run ModelDecl := do
  tellSource source
  Run.ofExcept (ModelDecl.ofSource source name)

/-- The declared model of a record class. -/
def declareClass (source : Value) : Run ModelDecl := do
  tellSource source
  Run.ofExcept (ModelDecl.ofClass source)

/-- The definition of a source. -/
def define (source name : Value) : Run Definition := do
  let d ← declare source name
  Run.ofExcept (Definition.extract d)

/-- The compiled model of a declared one. -/
def compileDecl (settings : CompilerSettings) (d : ModelDecl) : Run Compiled :=
  tell (.ofDecl settings d)

/-- The compiled model of a source. -/
def compile (settings : CompilerSettings) (source name : Value) : Run Compiled := do
  let d ← declare source name
  compileDecl settings d

/-- The compiled model of a definition. -/
def compileDefinition (settings : CompilerSettings) (d : Definition) : Run Compiled :=
  tell (.ofDefinition settings d)

/-- The compiled models of sources; the first fault ends it. -/
def compileAll (settings : CompilerSettings) : List Value → Run (List Compiled)
  | [] => pure []
  | source :: rest => do
    let c ← compile settings source .null
    let cs ← compileAll settings rest
    return c :: cs

/-- Settings of the compiler: those that are given, or those of the session. -/
def settingsOr (given : Option CompilerSettings) : Run CompilerSettings :=
  match given with
  | some s => pure s
  | none => do return (← Run.settings).compiler

end Compiler

end Relvar
