/-
The generated module: source text with six constants for each compiled model
and a table of all models that refers to them. Every name and statement stands
as a quoted text, every list of names as a tuple. Models whose constants would
have the same names are refused. The text is made before a file is written, so that
models that are refused leave none.
-/
import Relvar.Compiled
import Relvar.Generated.Constant
import Relvar.Path
import Relvar.Session

set_option autoImplicit false

namespace Relvar.Generated

/-- The lines in front of the constants. -/
def header : List String :=
  ["\"\"\"", "Generated model artifacts.", "",
    "Do not edit by hand; regenerate from the model declarations.", "\"\"\""]

/-- Names as a tuple of quoted texts. -/
def nameTuple (names : List String) : String := tupled (names.map Text.quote)

/-- A constant and its value. -/
def constantLine (stem suffix value : String) : String := s!"{stem}_{suffix} = {value}"

/-- The lines of the constants of a model. -/
def constantLines (c : Compiled) : List String :=
  let stem := constantPrefix c.model
  ["", "# " ++ c.model,
    constantLine stem "NAME" (Text.quote c.model),
    constantLine stem "SCHEMA" (Text.quote c.table),
    constantLine stem "PK" (Text.quote c.keyName),
    constantLine stem "CREATE_ARGS" (nameTuple c.arguments.create),
    constantLine stem "UPDATE_ARGS" (nameTuple c.arguments.update),
    constantLine stem "DELETE" (Text.quote c.delete)]

/-- An entry of the table of a model, which refers to a constant. -/
def entryLine (stem key suffix : String) : String :=
  "        \"" ++ key ++ "\": " ++ stem ++ "_" ++ suffix ++ ","

/-- The lines of a model in the table. -/
def tableLines (c : Compiled) : List String :=
  let stem := constantPrefix c.model
  ["    " ++ Text.quote c.model ++ ": \x7b",
    entryLine stem "schema" "SCHEMA",
    entryLine stem "primary_key" "PK",
    entryLine stem "create_args" "CREATE_ARGS",
    entryLine stem "update_args" "UPDATE_ARGS",
    entryLine stem "delete" "DELETE",
    "    \x7d,"]

/-- The lines of the module of several models. -/
def lines (cs : List Compiled) : List String :=
  header ++ cs.flatMap constantLines ++ ["", "", "MODELS = \x7b"] ++ cs.flatMap tableLines ++
    ["\x7d"]

/-- The text of lines, each of which ends. -/
def unlines (ls : List String) : String := String.join (ls.map (· ++ "\n"))

/-- The text of the module of several models. -/
def module? (cs : List Compiled) : Except Fault String :=
  let shared := sharedPrefixes (cs.map fun c => constantPrefix c.model)
  if shared.isEmpty then .ok (unlines (lines cs)) else .error (.sharedNames shared)

/-! ## The file -/

/-- The writer of generated modules. -/
def writer : Writer := .plain "core.schema.codegen"

/-- Writes the module of several models to a path, and hands the path on. -/
def writeModule (cs : List Compiled) (path : String) : Run Path := do
  let target := Path.ofText path
  let text ← Run.ofExcept (module? cs)
  if target.isDirectory then throw (.directory target.text)
  Run.happen (.wrote target.text text)
  writer.info
    s!"Wrote generated module for {Decimal.ofNat cs.length} models to {target.text}"
  return target

end Relvar.Generated
