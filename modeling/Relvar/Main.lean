/-
The program. It runs the command line in the environment of the process and at
the present moment, then shows what was printed and complained and writes the
files that were made. No database and no modules are linked to it: connecting
fails, and only what needs neither succeeds.
-/
import Relvar.CommandLine.Deployment
import Std.Time.DateTime.Timestamp

set_option autoImplicit false

namespace Relvar

/-- The variables of the environment that the program reads. -/
def variableNames : List String :=
  ["MODELGEN_DEFAULT_STRING_SIZE", "MODELGEN_REQUIRE_PRIMARY_KEY", "MODELGEN_PARAMSTYLE",
    "DATABASE_URL", "POSTGRES_SSLMODE", "POSTGRES_CONNECT_TIMEOUT", "POSTGRES_HOST",
    "POSTGRES_PORT", "POSTGRES_DB", "POSTGRES_USER", "POSTGRES_PASSWORD", Run.logFormVariable]

/-- The variables that are set. -/
def readEnvironment : IO Environment :=
  variableNames.filterMapM fun name => do
    return (← IO.getEnv name).map (name, ·)

/-- The start of 1970. -/
def startOfClock : Moment := ⟨⟨1970, 1, 1⟩, 0, 0, 0, 0, some 0⟩

/-- The present moment. -/
def readClock : IO Moment := do
  let t ← Std.Time.Timestamp.now
  let total := t.toNanosecondsSinceUnixEpoch.val / 1000
  return (Moment.ofMicroseconds total).toOption.getD startOfClock

/-- The answers of a database that is not there. -/
def Database.Script.unlinked : Database.Script :=
  ⟨some (.backend .operational "no database is linked to this program"), none, []⟩

/-- The code of an ending. -/
def CommandLine.Ending.code : CommandLine.Ending → Nat
  | .returned n | .stopped n => n

/-- What stands before the last slash of a path. -/
def folderOf (path : String) : String :=
  String.ofList ((path.toList.reverse.dropWhile (· != '/')).drop 1).reverse

/-- Writes a file and makes the folders around it. -/
def writeInFolder (path text : String) : IO Unit := do
  let folder := folderOf path
  unless folder.isEmpty do IO.FS.createDirAll folder
  IO.FS.writeFile path text

end Relvar

open Relvar in
/-- Runs the command line. -/
def main (arguments : List String) : IO UInt32 := do
  let environment ← readEnvironment
  let session := Session.start environment .unlinked (← readClock)
  let (result, after) := (CommandLine.run [] arguments).run.run session
  IO.print (Happening.output after.console after.happenings)
  IO.eprint (Happening.complaints after.happenings)
  for (path, text) in Happening.files after.happenings do
    writeInFolder path text
  match result with
  | .ok ending => return ending.code.toUInt32
  | .error e =>
    IO.eprintln e.message
    return 1
