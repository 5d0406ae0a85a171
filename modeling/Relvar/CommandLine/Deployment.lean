/-
Deployment: carrying out what a command line asks for. A registry is loaded and
migrated, and the result is reported as text or as an object; or the compiled
models are written to a generated module and the database is left alone. The
code of success is zero, of failure one, and of a refused command line two.
-/
import Relvar.Catalogue
import Relvar.CommandLine.Help
import Relvar.CommandLine.Request
import Relvar.Generated.Module
import Relvar.Migration

set_option autoImplicit false

namespace Relvar.CommandLine

/-- How the program ends: with a code that it returns, or because it stops. -/
inductive Ending
  | returned (code : Nat)
  | stopped (code : Nat)
  deriving DecidableEq

/-! ## Reports -/

/-- The mark of a step. -/
def mark : StepStatus → String
  | .success => "[ok]"
  | .failed => "[failed]"
  | .skipped => "[skipped]"

/-- Prints lines. -/
def printLines : List String → Run Unit
  | [] => pure ()
  | l :: ls => do
    Run.printLine l
    printLines ls

/-- The lines of the report of a step; its details are shown on request. -/
def stepLines (showDetails : Bool) (s : Step) : List String :=
  [mark s.status ++ " " ++ s.name ++ ": " ++ s.message] ++
    (if s.errorText = "" then [] else ["   Error: " ++ s.errorText]) ++
    (if showDetails then s.details.map fun d => "   " ++ d.1 ++ ": " ++ d.2.text else [])

/-- The texts of names, of which the first has an index. -/
def nameTexts (index : Nat) : List Value → Except Fault (List String)
  | [] => .ok []
  | v :: vs => match v.asText? with
    | some s => (nameTexts (index + 1) vs).map (s :: ·)
    | none => .error (.notJoined index v.fullKind)

/-- The lines that start a report. -/
def headLines : List String := [Migration.rule, "Schema Deployment"]

/-- The lines in front of a report that say what is migrated. -/
def openingLines (registry : Registry) (isDryRun : Bool) : Except Fault (List String) := do
  let names := ", ".intercalate (← nameTexts 0 registry.names)
  return ["Models: " ++ (if names = "" then "(none)" else names),
    "Mode: " ++ (if isDryRun then "DRY RUN" else "EXECUTE"),
    Migration.rule]

/-- The lines of the statements of a dry run. -/
def statementLines (m : Migration) : List String :=
  if m.isDryRun && !m.statements.isEmpty then "\n[DDL]\n" :: m.statements else []

/-- The lines that end a report. -/
def closingLines (m : Migration) : List String :=
  ["\n" ++ Migration.rule] ++
    (if m.success then ["Deployment completed successfully"]
      else "Deployment failed" :: m.errors.map fun e => "   - " ++ e) ++
    [Migration.rule]

/-- The lines of the report of a migration. -/
def reportLines (showDetails : Bool) (m : Migration) : List String :=
  ["\n[RESULTS]\n"] ++ m.steps.flatMap (stepLines showDetails) ++ statementLines m ++
    closingLines m

/-- The code of a migration. -/
def migrationCode (m : Migration) : Nat := if m.success then 0 else 1

/-! ## Deployment -/

/-- Whether a fault says that models cannot be loaded. -/
def isLoadFault (e : Fault) : Bool :=
  match e.category with
  | .noModule | .value | .type | .invalid | .binding | .declaration _ => true
  | _ => false

/-- Whether a fault says that a module cannot be generated. -/
def isGenerationFault (e : Fault) : Bool :=
  match e.category with
  | .generation | .declaration _ => true
  | _ => false

/-- The level from which on a request shows the log. -/
def levelWord (r : Request) : String := if r.isVerbose then "DEBUG" else "INFO"

/-- Writes the generated module of a registry. -/
def emit (settings : CompilerSettings) (registry : Registry) (path : String) : Run Ending := do
  let written : Run Path := do
    let cs ← registry.compileAll settings
    Generated.writeModule cs path
  match ← written.attempt with
  | .ok path =>
    Run.printLine ("Wrote " ++ path.text)
    return .returned 0
  | .error e =>
    if isGenerationFault e then
      Run.complainLine ("Generation failed: " ++ e.message)
      return .returned 1
    else throw e

/-- Migrates a registry and reports it as an object. -/
def migrateForPrograms (settings : CompilerSettings) (registry : Registry)
    (db : MigrationDatabase) (r : Request) : Run Ending := do
  let m ← Migration.run settings registry db r.isDryRun
  let text ← Run.ofExcept ((Json.page 2 m.toValue).mapError .notInterchangeKey)
  Run.printLine text
  return .returned (migrationCode m)

/-- Migrates a registry and reports it as text. -/
def migrateForPeople (settings : CompilerSettings) (registry : Registry)
    (db : MigrationDatabase) (r : Request) : Run Ending := do
  printLines headLines
  printLines (← Run.ofExcept (openingLines registry r.isDryRun))
  let m ← Migration.run settings registry db r.isDryRun
  printLines (reportLines r.isVerbose m)
  return .returned (migrationCode m)

/-- The database that a request names: an address makes a connector of its own. -/
def databaseOf (r : Request) : Run MigrationDatabase :=
  match r.connection.filter (· != "") with
  | none => pure (.connector .shared)
  | some address => do
    ConnectorName.own.make (some address) none
    return .connector .own

/-- Carries out a request on a loaded registry. -/
def deploy (r : Request) (registry : Registry) : Run Ending := do
  let db ← databaseOf r
  let settings := (← Run.settings).compiler
  match r.emit.filter (· != "") with
  | some path => emit settings registry path
  | none =>
    if r.hasJsonLogs then migrateForPrograms settings registry db r
    else migrateForPeople settings registry db r

/-- Carries out a request. -/
def perform (c : Catalogue) (r : Request) : Run Ending := do
  let _ ← Run.setUpLog (.str (levelWord r)) r.hasJsonLogs
  let target := r.models.getD ""
  match ← (c.load target).attempt with
  | .ok registry => deploy r registry
  | .error e =>
    if isLoadFault e then
      Run.complainLine s!"Cannot load models from {target}: {e.message}"
      return .returned 1
    else throw e

/-- Runs the program. -/
def run (c : Catalogue) (arguments : List String) : Run Ending := do
  match Request.ofArguments arguments with
  | .ok r => perform c r
  | .error .help =>
    Run.print help
    return .stopped 0
  | .error .version =>
    Run.print versionLine
    return .stopped 0
  | .error (.refused e) =>
    Run.happen (.complained (refusal e))
    return .stopped 2

end Relvar.CommandLine
