/-
Migrations: creating the tables of a registry. Every model is compiled before the
database is touched, then the connection is tested, then the tables are created
in the order of the registry until one fails. Each step has a result, and the
migration succeeds when every step does. A dry run stops before the database and
shows what it would do.
-/
import Relvar.Database.Connection
import Relvar.Registry

set_option autoImplicit false

namespace Relvar

/-! ## Results -/

/-- How a step ended. -/
inductive StepStatus
  | success
  | failed
  | skipped
  deriving DecidableEq

/-- The name of a status. -/
def StepStatus.name : StepStatus → String
  | .success => "success"
  | .failed => "failed"
  | .skipped => "skipped"

/-- The result of a step. -/
structure Step where
  name : String
  status : StepStatus
  message : String
  error : Option String
  details : List (String × Value)

/-- The result of a migration. -/
structure Migration where
  moment : Moment
  isDryRun : Bool
  success : Bool
  models : List Value
  statements : List String
  steps : List Step
  errors : List String

namespace Step

/-- Whether a step has a status. -/
def has (status : StepStatus) (s : Step) : Bool := s.status = status

/-- The error of a step; it is empty if there is none. -/
def errorText (s : Step) : String := s.error.getD ""

/-- A text that may be missing, as a value. -/
def textOrNull (s : Option String) : Value := (s.map Value.str).getD .null

/-- A step as a value. -/
def toValue (s : Step) : Value :=
  .dict (Dict.ofStrings
    [("name", .str s.name), ("status", .str s.status.name), ("message", .str s.message),
      ("error", textOrNull s.error), ("details", .dict (Dict.ofStrings s.details))])

end Step

namespace Migration

/-- How many steps have a status. -/
def count (m : Migration) (status : StepStatus) : Nat := (m.steps.filter (Step.has status)).length

/-- The counts of steps. -/
def summary (m : Migration) : List (String × Value) :=
  [("total_steps", .int m.steps.length), ("successful", .int (m.count .success)),
    ("failed", .int (m.count .failed)), ("skipped", .int (m.count .skipped))]

/-- Texts as a value. -/
def texts (ss : List String) : Value := .list (ss.map .str)

/-- A migration as a value. -/
def toValue (m : Migration) : Value :=
  .dict (Dict.ofStrings
    [("timestamp", .str m.moment.iso), ("dry_run", .bool m.isDryRun), ("success", .bool m.success),
      ("models", .list m.models), ("statements", texts m.statements),
      ("steps", .list (m.steps.map Step.toValue)), ("errors", texts m.errors),
      ("summary", .dict (Dict.ofStrings m.summary))])

end Migration

/-! ## Databases -/

/-- The database of a migration: one that a caller brings, or a connector. -/
inductive MigrationDatabase
  | brought
  | connector (name : ConnectorName)

namespace MigrationDatabase

/-- The statement that tests a connection. -/
def testStatement : String := "SELECT 1 AS ok"

/-- Tests the connection. -/
def test : MigrationDatabase → Run Unit
  | brought => do
    Run.ask (.probe testStatement)
    Database.failWith (← get).script.connectError
  | connector name => do
    let _ ← name.fetchOne testStatement .absent

/-- Sends a statement. -/
def execute (db : MigrationDatabase) (statement : String) : Run Unit :=
  match db with
  | brought => do
    let _ ← Database.execute statement .left
  | connector name => name.execute statement .absent

end MigrationDatabase

/-! ## Running -/

namespace Migration

/-- The writer of migrations. -/
def writer : Writer := .ofComponent "infrastructure.migration_runner" .migration

/-- The line that sets a report apart. -/
def rule : String := String.ofList (List.replicate 70 '=')

/-- What stands for the places that an error went through. -/
def traceText : String := "<traceback>"

/-- Tells the result of a step. -/
def tellStep (s : Step) : Run Unit :=
  writer.info s!"   Result: {s.status.name} - {s.message}"

/-- The result of compiling, with the compiled models. Only the refusal of a
declaration is a result; other faults end the migration. -/
def compileStep (settings : CompilerSettings) (registry : Registry) :
    Run (Step × List Compiled) := do
  writer.info "Step: Compiling models..."
  match ← (registry.compileAll settings).attempt with
  | .ok cs =>
    let step : Step :=
      { name := "compile_models"
        status := .success
        message := s!"Compiled {Decimal.ofNat cs.length} models"
        error := none
        details := [("models", texts (cs.map (·.model)))] }
    tellStep step
    return (step, cs)
  | .error (.declaration e) =>
    let step : Step :=
      { name := "compile_models"
        status := .failed
        message := s!"Compilation failed: {e.message}"
        error := some e.message
        details := [("code", .str e.code), ("model", e.model.getD .null),
          ("field", e.field.getD .null)] }
    writer.error s!"Compilation failed: {e.message}"
    tellStep step
    return (step, [])
  | .error e => throw e

/-- The result of testing the connection. -/
def testStep (db : MigrationDatabase) : Run Step := do
  writer.info "Step: Testing database connection..."
  let step : Step ← match ← db.test.attempt with
    | .ok _ => pure ⟨"test_connection", .success, "Connected", none, []⟩
    | .error e => do
      writer.error s!"Connection test failed: {e.message}"
      pure ⟨"test_connection", .failed, s!"Connection failed: {e.message}", some e.message, []⟩
  tellStep step
  return step

/-- The name of the step that creates a table. -/
def tableStepName (model : String) : String := "create_table:" ++ model

/-- A statement as details. -/
def statementDetails (c : Compiled) : List (String × Value) := [("statement", .str c.table)]

/-- The result of creating a table. -/
def tableStep (db : MigrationDatabase) (c : Compiled) : Run Step := do
  writer.info s!"Step: Creating table {c.model}..."
  let step : Step ← match ← (db.execute c.table).attempt with
    | .ok _ =>
      pure ⟨tableStepName c.model, .success, s!"Table {c.model} ensured", none, statementDetails c⟩
    | .error e => do
      writer.error s!"Create table {c.model} failed: {e.message}"
      writer.debug traceText
      pure ⟨tableStepName c.model, .failed, s!"Create table failed: {e.message}", some e.message,
        []⟩
  tellStep step
  return step

/-- The result of a table that comes after a failed one. -/
def skippedStep (c : Compiled) : Step :=
  ⟨tableStepName c.model, .skipped, "Skipped after earlier failure", none, []⟩

/-- The results of creating tables, up to the first that fails; those after it
are skipped. -/
def tableSteps (db : MigrationDatabase) : List Compiled → Run (List Step)
  | [] => pure []
  | c :: cs => do
    let step ← Run.within (fun context =>
        (context.set .model (.str c.model)).set .operation (.str "create_table"))
      (tableStep db c)
    if step.status = .failed then return step :: cs.map skippedStep
    else
      let steps ← tableSteps db cs
      return step :: steps

/-- The result of a table in a dry run. -/
def dryStep (c : Compiled) : Step :=
  ⟨tableStepName c.model, .success, "[DRY RUN] Would execute create table", none,
    statementDetails c⟩

/-- Tells what a dry run would do. -/
def tellDry : List Compiled → Run Unit
  | [] => pure ()
  | c :: cs => do
    writer.info s!"   [{c.model}] {c.table}"
    tellDry cs

/-- The errors of steps that create tables, with the models in front. -/
def tableErrors : List Compiled → List Step → List String
  | c :: cs, s :: ss =>
    (if s.status = .failed then [c.model ++ ": " ++ s.errorText] else []) ++
      tableErrors cs ss
  | _, _ => []

/-- Tells what a migration is about to do. -/
def tellStart (registry : Registry) (isDryRun : Bool) : Run Unit := do
  writer.info rule
  writer.info "MODEL SCHEMA MIGRATION"
  writer.info s!"   Models: {Decimal.ofNat registry.length}"
  let mode := if isDryRun then "DRY RUN" else "EXECUTE"
  writer.info s!"   Mode: {mode}"
  writer.info rule

/-- Tells how a migration ended. -/
def tellEnd (m : Migration) : Run Unit := do
  writer.info rule
  let outcome := if m.success then "COMPLETE" else "FAILED"
  writer.info s!"MIGRATION {outcome}"
  let succeeded := Decimal.ofNat (m.count .success)
  let failed := Decimal.ofNat (m.count .failed)
  let skipped := Decimal.ofNat (m.count .skipped)
  writer.info s!"   Steps: {succeeded} succeeded, {failed} failed, {skipped} skipped"
  if !m.errors.isEmpty then writer.warning s!"   Errors: {(texts m.errors).display}"
  writer.info rule
  let data := [("success", .bool m.success), ("dry_run", .bool m.isDryRun),
    ("models", .int m.models.length)] ++ m.summary
  Run.milestone "migration_complete" (.dict (Dict.ofStrings data)) Run.milestoneWriter

/-- The migration without its end told. -/
def perform (settings : CompilerSettings) (registry : Registry) (db : MigrationDatabase)
    (isDryRun : Bool) (blank : Migration) : Run Migration := do
  let (step, cs) ← compileStep settings registry
  let m := { blank with steps := [step] }
  if step.status = .failed then
    return { m with errors := ["Compilation failed: " ++ step.errorText] }
  let m := { m with statements := cs.map Compiled.table }
  if isDryRun then
    tellDry cs
    return { m with steps := m.steps ++ cs.map dryStep, success := true }
  let test ← testStep db
  let m := { m with steps := m.steps ++ [test] }
  if test.status = .failed then
    return { m with errors := ["Connection failed: " ++ test.errorText] }
  let tables ← tableSteps db cs
  return { m with
    steps := m.steps ++ tables
    errors := tableErrors cs tables
    success := !tables.any (Step.has .failed) }

/-- Creates the tables of a registry. -/
def run (settings : CompilerSettings) (registry : Registry) (db : MigrationDatabase)
    (isDryRun : Bool) : Run Migration := do
  let moment := (← get).now
  tellStart registry isDryRun
  let m ← perform settings registry db isDryRun
    ⟨moment, isDryRun, false, registry.names, [], [], []⟩
  tellEnd m
  return m

/-- The statements that create the tables of a registry. -/
def generate (settings : CompilerSettings) (registry : Registry) : Run (List String) := do
  let cs ← registry.compileAll settings
  return cs.map Compiled.table

end Migration

end Relvar
