/-
Options of the command line. An option has one or two spellings. Some take a
value, the others are switches. A long option may be shortened as far as it stays
clear, and several short switches may stand together.
-/
set_option autoImplicit false

namespace Relvar.CommandLine

/-- The options. -/
inductive Opt
  | help
  | version
  | models
  | dryRun
  | emit
  | connection
  | verbose
  | jsonLogs
  deriving DecidableEq

namespace Opt

/-- The options in the order in which they are listed. -/
def all : List Opt := [help, version, models, dryRun, emit, connection, verbose, jsonLogs]

/-- The spellings of an option. -/
def spellings : Opt → List String
  | help => ["-h", "--help"]
  | version => ["--version"]
  | models => ["--models"]
  | dryRun => ["--dry-run"]
  | emit => ["--emit"]
  | connection => ["--connection"]
  | verbose => ["--verbose", "-v"]
  | jsonLogs => ["--json-logs"]

/-- The name by which an error speaks of an option. -/
def name (o : Opt) : String := "/".intercalate o.spellings

/-- Whether an option takes a value. -/
def takesValue : Opt → Bool
  | models | emit | connection => true
  | _ => false

/-- The spellings of all options. -/
def table : List (String × Opt) := all.flatMap fun o => o.spellings.map (·, o)

/-- The option of a spelling. -/
def ofSpelling? (s : String) : Option Opt := (table.find? (·.1 == s)).map (·.2)

end Opt

/-- Why a command line is refused. -/
inductive UsageError
  | ambiguous (given : String) (candidates : List String)
  | ignoredValue (o : Opt) (value : String)
  | missingValue (o : Opt)
  | missingOptions (os : List Opt)
  | unrecognized (arguments : List String)

end Relvar.CommandLine
