/-
Sessions. A session is what one run of the library sees and leaves behind: the
environment, the settings read so far, the database and the connectors to it,
the nested contexts of the log, and everything that happened, in order. A run
ends with a value or a fault; what happened before a fault stays.
-/
import Relvar.Database.Event
import Relvar.Log.Setup
import Relvar.Settings

set_option autoImplicit false

namespace Relvar

/-- Something that happened: a record was logged, the database was asked for
something, text was printed or complained, or a file was written. -/
inductive Happening
  | logged (r : Log.Record)
  | asked (e : Database.Event)
  | printed (text : String)
  | complained (text : String)
  | wrote (path text : String)

/-- A connector: the settings to connect with, and the address once it is known. -/
structure Connector where
  settings : DatabaseSettings
  address : Option String

/-- The connectors of a session: one that a caller makes, and one that is shared
by all who make none. -/
inductive ConnectorName
  | own
  | shared
  deriving DecidableEq

/-- A session. The database has a script for the connection that is made next, and may have
others for those that are made later on. -/
structure Session where
  environment : Environment
  settings : Option Settings
  script : Database.Script
  upcoming : List Database.Script
  own : Option Connector
  shared : Option Connector
  contexts : List Log.Context
  console : Option Log.Setup
  now : Moment
  happenings : List Happening

/-- The session that starts in an environment with a database at a moment. -/
def Session.start (environment : Environment) (script : Database.Script) (now : Moment) :
    Session :=
  ⟨environment, none, script, [], none, none, [], none, now, []⟩

/-- Something to run in a session. -/
abbrev Run (α : Type) := ExceptT Fault (StateM Session) α

/-! ## Views of what happened -/

namespace Happening

/-- The records among what happened. -/
def records : List Happening → List Log.Record
  | [] => []
  | logged r :: hs => r :: records hs
  | _ :: hs => records hs

/-- What the database was asked for. -/
def events : List Happening → List Database.Event
  | [] => []
  | asked e :: hs => e :: events hs
  | _ :: hs => events hs

/-- The text on the console: what was printed, and the log lines between. -/
def output (console : Option Log.Setup) : List Happening → String
  | [] => ""
  | printed s :: hs => s ++ output console hs
  | logged r :: hs =>
    let line := (console.bind (·.line? r)).map (· ++ "\n")
    line.getD "" ++ output console hs
  | _ :: hs => output console hs

/-- The complaints. -/
def complaints : List Happening → String
  | [] => ""
  | complained s :: hs => s ++ complaints hs
  | _ :: hs => complaints hs

/-- The files that were written, with what was written last. -/
def files : List Happening → List (String × String)
  | [] => []
  | wrote path text :: hs =>
    let later := files hs
    if later.any (·.1 == path) then later else (path, text) :: later
  | _ :: hs => files hs

end Happening

/-! ## Running -/

namespace Run

/-- Ends with the outcome of a computation that needs no session. -/
def ofExcept {α : Type} (r : Except Fault α) : Run α := ExceptT.mk (pure r)

/-- Runs and hands on how it ended. -/
def attempt {α : Type} (m : Run α) : Run (Except Fault α) := ExceptT.mk (Except.ok <$> m.run)

/-- Runs, then cleans up in any case. -/
def thenAlways {α : Type} (m : Run α) (cleanUp : Run Unit) : Run α := do
  let r ← attempt m
  cleanUp
  ofExcept r

/-- Adds to what happened. -/
def happen (h : Happening) : Run Unit :=
  modify fun s => { s with happenings := s.happenings ++ [h] }

/-- Asks the database for something. -/
def ask (e : Database.Event) : Run Unit := happen (.asked e)

/-- Prints text. -/
def print (text : String) : Run Unit := happen (.printed text)

/-- Prints a line. -/
def printLine (line : String) : Run Unit := print (line ++ "\n")

/-- Complains in a line. -/
def complainLine (line : String) : Run Unit := happen (.complained (line ++ "\n"))

/-! ## Log -/

/-- The current context. -/
def context : Run Log.Context := do return Log.innermost (← get).contexts

/-- Enters a context that overrides parts of the current one, by name. -/
def enter (parts : List (String × Value)) : Run Unit := do
  let inner ← ofExcept ((← context).overrideAll parts)
  modify fun s => { s with contexts := inner :: s.contexts }

/-- Leaves the innermost context. -/
def leave : Run Unit := modify fun s => { s with contexts := s.contexts.tail }

/-- Runs in a context made from the current one, and restores that in any case. -/
def within {α : Type} (change : Log.Context → Log.Context) (m : Run α) : Run α := do
  modify fun s => { s with contexts := change (Log.innermost s.contexts) :: s.contexts }
  thenAlways m leave

/-- The variable of the environment that says the form of log lines. -/
def logFormVariable : String := "LOG_FORMAT"

/-- Sets up the log. -/
def setUpLog (level : Value) (structured : Bool) : Run Log.Setup := do
  let word := (← get).environment.get? logFormVariable
  let setup ← ofExcept (Log.Setup.of level structured word)
  modify fun s => { s with console := some setup }
  return setup

end Run

/-- Who writes to the log: a plain writer, or one that adds the current context
and its component to the data of its records. -/
inductive Writer
  | plain (name : String)
  | tagged (name : String) (component : Option Value)

namespace Writer

/-- The name of a writer. The writer without a name is the root. -/
def name : Writer → String
  | plain s | tagged s _ => if s = "" then "root" else s

/-- The data of a record of a writer. -/
def extra (given : List (Value × Value)) (context : Log.Context) : Writer → Option Value
  | plain _ => if given.isEmpty then none else some (.dict given)
  | tagged _ component => some (Log.extraOf given context component)

/-- A writer of a layer. -/
def ofComponent (name : String) (c : Log.Component) : Writer := tagged name (some (.str c.name))

/-- Logs a message with arguments and data. Only positive levels are logged. -/
def logWith (w : Writer) (level : Log.Level) (message : Value) (args : List Value)
    (given : List (Value × Value)) : Run Unit := do
  if 0 < level then
    let s ← get
    let context := Log.innermost s.contexts
    Run.happen (.logged
      { logger := w.name
        level := level
        message := message
        args := args
        extra := w.extra given context
        context := context
        origin := .unknown
        time := s.now
        attached := none })

/-- Logs a text. -/
def log (w : Writer) (level : Log.Level) (text : String) : Run Unit :=
  w.logWith level (.str text) [] []

/-- Logs a detail. -/
def debug (w : Writer) (text : String) : Run Unit := w.log Log.Level.debug text

/-- Logs a report. -/
def info (w : Writer) (text : String) : Run Unit := w.log Log.Level.info text

/-- Logs a warning. -/
def warning (w : Writer) (text : String) : Run Unit := w.log Log.Level.warning text

/-- Logs an error. -/
def error (w : Writer) (text : String) : Run Unit := w.log Log.Level.error text

end Writer

namespace Run

/-- The writer of milestones that no other writer logs. -/
def milestoneWriter : String := "checkpoint"

/-- Logs a milestone: its name, the current context and, if there is any, data. -/
def milestone (name : String) (data : Value) (writer : String) : Run Unit := do
  let context ← context
  let key : Value := .str "checkpoint"
  let entries := Dict.merge [(key, .str name)] context.entries
  let entries := if data.isTruthy then Dict.insert entries (.str "data") data else entries
  (Writer.plain writer).logWith Log.Level.info (.str ("CHECKPOINT: " ++ name)) [] entries

/-! ## Settings -/

/-- Puts another environment in place; settings that are read already stay. -/
def useEnvironment (env : Environment) : Run Unit := modify fun s => { s with environment := env }

/-- Forgets the settings, so that they are read again. -/
def forgetSettings : Run Unit := modify fun s => { s with settings := none }

/-- The settings of the session, read when they are first asked for. -/
def settings : Run Settings := do
  let s ← get
  match s.settings with
  | some known => return known
  | none =>
    let read ← ofExcept (Settings.ofEnvironment s.environment)
    modify fun s => { s with settings := some read }
    return read

end Run

end Relvar
