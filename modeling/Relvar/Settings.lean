/-
Settings, read from the environment. What the environment does not say has a
default; what it says wrongly is an error. The settings of the compiler are read
before those of the database, and of these the style of parameters before the
time that a connection may take.
-/
import Relvar.Column
import Relvar.Statement.Binding
import Relvar.Text.Upper

set_option autoImplicit false

namespace Relvar

/-! ## Environment -/

/-- The variables of an environment. -/
abbrev Environment := List (String × String)

namespace Environment

/-- The value of a variable, if it is set. -/
def get? (env : Environment) (name : String) : Option String :=
  (env.find? (·.1 == name)).map (·.2)

/-- The value of a variable, or a default. -/
def getD (env : Environment) (name default : String) : String := (env.get? name).getD default

/-- The words that switch a flag on. -/
def onWords : List String := ["1", "true", "yes", "on"]

/-- Whether a flag is on. -/
def flag (env : Environment) (name : String) : Bool :=
  match env.get? name with
  | none => false
  | some s => onWords.contains (String.ofList (Text.lowerLatin (Text.trim s.toList)))

/-- The integer that a variable holds, or a default. -/
def integer (env : Environment) (name : String) (default : Int) : Except Fault Int :=
  match env.get? name with
  | none => .ok default
  | some s => (Decimal.readInt s).mapError .numeral

end Environment

/-! ## Settings -/

/-- Settings of the compiler: the length of strings that are given none, and
whether every model needs a key. -/
structure CompilerSettings where
  stringSize : Int
  requiresKey : Bool
  deriving DecidableEq

namespace CompilerSettings

/-- The settings where nothing is said. -/
def default : CompilerSettings := ⟨defaultStringSize, false⟩

/-- Settings with a length that is positive. -/
def of (stringSize : Int) (requiresKey : Bool) : Except Fault CompilerSettings :=
  if stringSize < 1 then .error (.notPositiveSize stringSize) else .ok ⟨stringSize, requiresKey⟩

/-- The settings that an environment says. -/
def ofEnvironment (env : Environment) : Except Fault CompilerSettings := do
  let size ← env.integer "MODELGEN_DEFAULT_STRING_SIZE" defaultStringSize
  of size (env.flag "MODELGEN_REQUIRE_PRIMARY_KEY")

end CompilerSettings

/-- Settings of the database: the style of parameters, the mode of encryption,
the seconds that connecting may take, and the address. -/
structure DatabaseSettings where
  style : BindStyle
  sslMode : String
  timeout : Int
  address : Option String
  deriving DecidableEq

namespace DatabaseSettings

/-- The settings where nothing is said. -/
def default : DatabaseSettings := ⟨.format, "require", 10, none⟩

/-- The settings that an environment says. -/
def ofEnvironment (env : Environment) : Except Fault DatabaseSettings := do
  let style ← BindStyle.ofValue (.str (env.getD "MODELGEN_PARAMSTYLE" default.style.name))
  let sslMode := env.getD "POSTGRES_SSLMODE" default.sslMode
  let timeout ← env.integer "POSTGRES_CONNECT_TIMEOUT" default.timeout
  return ⟨style, sslMode, timeout, env.get? "DATABASE_URL"⟩

end DatabaseSettings

/-- All settings. -/
structure Settings where
  compiler : CompilerSettings
  database : DatabaseSettings
  deriving DecidableEq

namespace Settings

/-- The settings where nothing is said. -/
def default : Settings := ⟨.default, .default⟩

/-- The settings that an environment says. -/
def ofEnvironment (env : Environment) : Except Fault Settings := do
  let compiler ← CompilerSettings.ofEnvironment env
  let database ← DatabaseSettings.ofEnvironment env
  return ⟨compiler, database⟩

end Settings

end Relvar
