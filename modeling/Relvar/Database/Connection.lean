/-
Connections to a database. A connection is open for as long as something is done
on it and closed in any case. An error that the database reports while it is
open is logged and rolls the transaction back; other faults only close it. A
cursor is closed before its connection. The address to connect to is the one
given, the one of the settings, or one put together from the environment. When a
connection is done with, the database goes on with the script for the next one.
-/
import Relvar.Session

set_option autoImplicit false

namespace Relvar

/-! ## Requests -/

namespace Database

/-- Whether a fault is an error that the database reports. -/
def isReported : Fault → Bool
  | .backend .operational _ => true
  | _ => false

/-- The next outcome of a statement. -/
def nextOutcome : Run Outcome := do
  let s ← get
  match s.script.outcomes with
  | [] => return .success
  | o :: rest =>
    set { s with script := { s.script with outcomes := rest } }
    return o

/-- Ends with a fault, if there is one. -/
def failWith : Option Fault → Run Unit
  | none => pure ()
  | some e => throw e

/-- Sends a statement. -/
def execute (statement : String) (parameters : SentParameters) : Run Outcome := do
  Run.ask (.execute statement parameters)
  let o ← nextOutcome
  failWith o.error
  return o

/-- Commits what was done. -/
def commit : Run Unit := do
  Run.ask .commit
  failWith (← get).script.commitError

/-- Goes on with the first of some scripts, if there are any. -/
def goOn : List Script → Run Unit
  | [] => pure ()
  | script :: rest => modify fun s => { s with script := script, upcoming := rest }

/-- Does something for which the database has a script of its own. -/
def onScript {α : Type} (m : Run α) : Run α := do
  let upcoming := (← get).upcoming
  m.thenAlways (goOn upcoming)

/-- Does something with a cursor, which is closed in any case. -/
def withCursor {α : Type} (m : Run α) : Run α := do
  Run.ask .openCursor
  m.thenAlways (Run.ask .closeCursor)

end Database

/-! ## Connectors -/

namespace ConnectorName

/-- The writer of connectors. -/
def writer : Writer := .plain "infrastructure.postgresql"

/-- The connector of a name in a session. -/
def find? (name : ConnectorName) (s : Session) : Option Connector :=
  match name with
  | .own => s.own
  | .shared => s.shared

/-- The session with a connector under a name. -/
def put (name : ConnectorName) (c : Connector) (s : Session) : Session :=
  match name with
  | .own => { s with own := some c }
  | .shared => { s with shared := some c }

/-- Makes a connector under a name, with the settings of the session unless others
are given. -/
def make (name : ConnectorName) (address : Option String) (given : Option DatabaseSettings) :
    Run Unit := do
  let settings ← match given with
    | some s => pure s
    | none => do pure (← Run.settings).database
  modify (name.put ⟨settings, address⟩)

/-- The connector of a name, made if it is not there yet. -/
def get (name : ConnectorName) : Run Connector := do
  match name.find? (← MonadState.get) with
  | some c => return c
  | none =>
    name.make none none
    return (name.find? (← MonadState.get)).getD ⟨.default, none⟩

end ConnectorName

/-! ## Addresses -/

namespace Environment

/-- The host of the database. -/
def host (env : Environment) : String := env.getD "POSTGRES_HOST" "localhost"

/-- The name of the database. -/
def database (env : Environment) : String := env.getD "POSTGRES_DB" "postgres"

/-- A variable that is set to something. -/
def filled? (env : Environment) (name : String) : Option String :=
  (env.get? name).filter (· != "")

end Environment

/-- The parts of an address. -/
structure Address where
  user : String
  password : String
  host : String
  portNumber : String
  database : String
  sslMode : String
  deriving DecidableEq

namespace Address

/-- The address as text. -/
def text (a : Address) : String :=
  s!"postgresql://{a.user}:{a.password}@{a.host}:{a.portNumber}/{a.database}?sslmode={a.sslMode}"

/-- The address that an environment gives the parts of. -/
def ofEnvironment (env : Environment) (sslMode : String) : Except Fault Address :=
  match env.filled? "POSTGRES_HOST", env.filled? "POSTGRES_DB" with
  | some host, some database =>
    match env.filled? "POSTGRES_PASSWORD" with
    | none => .error .noPassword
    | some password =>
      .ok ⟨env.getD "POSTGRES_USER" "postgres", password, host, env.getD "POSTGRES_PORT" "5432",
        database, sslMode⟩
  | _, _ => .error .notConfigured

end Address

namespace ConnectorName

/-- The address that settings give, or that is put together. -/
def findAddress (settings : DatabaseSettings) : Run String := do
  match settings.address.filter (· != "") with
  | some known => return known
  | none =>
    let s ← MonadState.get
    let a ← Run.ofExcept (Address.ofEnvironment s.environment settings.sslMode)
    writer.debug s!"Password connection string built for {a.database}"
    return a.text

/-- The address to connect to. Once found it stays. -/
def address (name : ConnectorName) : Run String := do
  let c ← name.get
  match c.address with
  | some known => return known
  | none =>
    let found ← findAddress c.settings
    modify (name.put { c with address := some found })
    return found

/-! ## Connections -/

/-- Tells of an error that the database reports. -/
def tellReported (e : Fault) : Run Unit :=
  if Database.isReported e then writer.error s!"PostgreSQL connection error: {e.message}"
  else pure ()

/-- Opens a connection. -/
def establish (name : ConnectorName) : Run Unit := do
  writer.debug "Connecting to PostgreSQL..."
  let c ← name.get
  let address ← name.address
  Run.ask (.connect address c.settings.timeout)
  match (← MonadState.get).script.connectError with
  | none => writer.debug "PostgreSQL connection established"
  | some e =>
    tellReported e
    throw e

/-- Ends what was done on a connection: an error that the database reports is
told and rolled back. -/
def settle {α : Type} (r : Except Fault α) : Run Unit :=
  match r with
  | .ok _ => pure ()
  | .error e => do
    tellReported e
    if Database.isReported e then Run.ask .rollback

/-- Does something on a connection, which is closed in any case. -/
def withConnection {α : Type} (name : ConnectorName) (m : Run α) : Run α :=
  Database.onScript do
    name.establish
    let r ← m.attempt
    settle r
    Run.ask .close
    Run.ofExcept r

/-- Does something with a cursor on a connection and commits it. -/
def withCursor {α : Type} (name : ConnectorName) (m : Run α) : Run α :=
  name.withConnection (Database.withCursor do
    let a ← m
    Database.commit
    return a)

/-- Sends a statement on a connection of its own. -/
def execute (name : ConnectorName) (statement : String) (params : Database.SentParameters) :
    Run Unit :=
  name.withCursor do
    let _ ← Database.execute statement params

/-- Sends a statement on a connection of its own and fetches a row. -/
def fetchOne (name : ConnectorName) (statement : String) (params : Database.SentParameters) :
    Run Value :=
  name.withCursor do
    let o ← Database.execute statement params
    Run.ask .fetchRow
    return o.row

end ConnectorName

end Relvar
