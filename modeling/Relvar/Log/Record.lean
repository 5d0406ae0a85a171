/-
Records of a log: who wrote one, how grave it is, its message, and the data that
goes with it. A record keeps the context that was current when it was written.
-/
import Relvar.Log.Context

set_option autoImplicit false

namespace Relvar.Log

/-! ## Levels -/

/-- How grave a record is. -/
abbrev Level := Int

namespace Level

/-- The level of details. -/
def debug : Level := 10

/-- The level of reports. -/
def info : Level := 20

/-- The level of warnings. -/
def warning : Level := 30

/-- The level of errors. -/
def error : Level := 40

/-- The levels with names. -/
def names : List (Level × String) :=
  [(50, "CRITICAL"), (error, "ERROR"), (warning, "WARNING"), (info, "INFO"), (debug, "DEBUG"),
    (0, "NOTSET")]

/-- The name of a level. -/
def name (level : Level) : String :=
  match names.find? (·.1 == level) with
  | some (_, s) => s
  | none => "Level " ++ Decimal.ofInt level

end Level

/-! ## Components -/

/-- The layers that write to the log. -/
inductive Component
  | compiler
  | migration
  | repository
  deriving DecidableEq

namespace Component

/-- The layers in the order in which they are listed. -/
def all : List Component := [compiler, migration, repository]

/-- The name of a layer. -/
def name : Component → String
  | compiler => "compiler"
  | migration => "migration"
  | repository => "repository"

/-- The layer that a value names. -/
def ofValue (v : Value) : Except Fault Component :=
  match v.asText?.bind fun s => all.find? (·.name == s) with
  | some c => .ok c
  | none => .error (.unknownComponent v)

end Component

/-! ## Records -/

/-- The place in a program from which a record is written. -/
structure Origin where
  file : String
  line : Int
  function : String

/-- The origin of a record that does not say where it was written. -/
def Origin.unknown : Origin := ⟨"-", 0, "-"⟩

/-- An error that goes with a record: its class and its text. -/
structure Attached where
  kind : String
  text : String

/-- A record. The data may be missing; the time is by universal time. -/
structure Record where
  logger : String
  level : Level
  message : Value
  args : List Value
  extra : Option Value
  context : Context
  origin : Origin
  time : Moment
  attached : Option Attached

namespace Record

/-- The entries of the data of a record. -/
def data (r : Record) : List (Value × Value) := (r.extra.bind Value.asMapping?).getD []

end Record

/-- The data of a record that a component writes: what is given, then the current
context over it, then the component if none is named. -/
def extraOf (given : List (Value × Value)) (context : Context) (component : Option Value) :
    Value :=
  let data := Dict.merge given context.entries
  match component with
  | none => .dict data
  | some c =>
    let key : Value := .str ContextPart.component.name
    if Dict.contains data key then .dict data else .dict (data ++ [(key, c)])

end Relvar.Log
