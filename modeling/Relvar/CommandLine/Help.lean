/-
What the command line says of itself: how it is used, its help and its version,
and why it refuses to run.
-/
import Relvar.CommandLine.Option
import Relvar.Decimal.Numeral
import Relvar.Text.Quoted

set_option autoImplicit false

namespace Relvar

/-! ## The version -/

/-- The numbers of the version, the most significant first. -/
def versionNumbers : List Nat := [0, 3, 0]

/-- The version as text. -/
def version : String := ".".intercalate (versionNumbers.map Decimal.ofNat)

namespace CommandLine

/-! ## What is said -/

/-- The name of the program. -/
def program : String := "deploy_schema.py"

/-- Lines as text. -/
def textOfLines (ls : List String) : String := String.join (ls.map (· ++ "\n"))

/-- How the program is used. -/
def usage : String := textOfLines
  ["usage: " ++ program ++ " [-h] [--version] --models MODELS [--dry-run]",
    "                        [--emit PATH] [--connection CONNECTION] [--verbose]",
    "                        [--json-logs]"]

/-- The options, one after the other. -/
def optionLines : List String :=
  ["options:",
    "  -h, --help            show this help message and exit",
    "  --version             show program's version number and exit",
    "  --models MODELS       Model registry as module:ATTRIBUTE",
    "  --dry-run             Compile and print DDL without executing",
    "  --emit PATH           Write a generated Python module of the compiled",
    "                        artifacts and exit",
    "  --connection CONNECTION",
    "                        PostgreSQL connection string (overrides environment)",
    "  --verbose, -v         Enable verbose logging",
    "  --json-logs           Emit structured JSON logs"]

/-- Examples of use. -/
def exampleLines : List String :=
  ["Examples:",
    "  python scripts/deploy_schema.py --models app.models:MODELS --dry-run",
    "  python scripts/deploy_schema.py --models app.models:MODELS",
    "  python scripts/deploy_schema.py --models app.models:MODELS --emit app/generated.py"]

/-- The variables of the environment. -/
def variableLines : List String :=
  ["Environment Variables:",
    "  DATABASE_URL                   Full PostgreSQL connection string",
    "  POSTGRES_HOST                  Database host",
    "  POSTGRES_DB                    Database name",
    "  POSTGRES_USER                  Database user (default: postgres)",
    "  POSTGRES_PASSWORD              Database password",
    "  POSTGRES_PORT                  Database port (default: 5432)",
    "  POSTGRES_SSLMODE               SSL mode (default: require)",
    "  MODELGEN_DEFAULT_STRING_SIZE   varchar size for unsized String fields (default: 255)",
    "  MODELGEN_REQUIRE_PRIMARY_KEY   Reject models without a primary key (default: false)",
    "        "]

/-- The help. -/
def help : String :=
  usage ++ textOfLines (["", "Create tables for registered models", ""] ++ optionLines ++ [""] ++
    exampleLines ++ [""] ++ variableLines)

/-- The version of the program. -/
def versionLine : String := program ++ " " ++ version ++ "\n"

/-- What is said of a refused command line. -/
def UsageError.message : UsageError → String
  | ambiguous given candidates =>
    s!"ambiguous option: {given} could match " ++ ", ".intercalate candidates
  | ignoredValue o value =>
    s!"argument {o.name}: ignored explicit argument {Text.quote value}"
  | missingValue o => s!"argument {o.name}: expected one argument"
  | missingOptions os =>
    "the following arguments are required: " ++ ", ".intercalate (os.map Opt.name)
  | unrecognized arguments => "unrecognized arguments: " ++ " ".intercalate arguments

/-- How the program is used, and why it refuses to run. -/
def refusal (e : UsageError) : String := usage ++ program ++ ": error: " ++ e.message ++ "\n"

end CommandLine

end Relvar
