/-
Everything that can go wrong, as one type, so that a run can say how it ended.
Each fault knows its cause; its text is computed from the cause, and its
category says how a caller tells faults apart.
-/
import Relvar.Declaration.Error
import Relvar.Invalid
import Relvar.Calendar.Moment

set_option autoImplicit false

namespace Relvar

/-! ## Parts of faults -/

/-- Why an instance is not paired with a plan. -/
inductive BindingCause
  | noValue (field : String)
  | noKey (operation model : String)
  | stated (text : String)

/-- What is said of an instance that is not paired with a plan. -/
def BindingCause.message : BindingCause → String
  | .noValue field => s!"instance has no value for field {Text.quote field}"
  | .noKey operation model => s!"{operation} requires a primary key but {model} declares none"
  | .stated text => text

/-- The refusal to pair an instance with a plan. -/
structure BindingError where
  cause : BindingCause
  model : Option Value
  field : Option Value

/-- The families of errors that a database or its driver reports. -/
inductive BackendKind
  | operational
  | runtime
  | value
  | key
  deriving DecidableEq

/-- The two numbers that a field of a pattern may have. -/
inductive Extent
  | width
  | precision
  deriving DecidableEq

/-- The name of a number of a field. -/
def Extent.name : Extent → String
  | .width => "width"
  | .precision => "precision"

/-- The number from which on a number of a field is too large: a width has 64 bits,
a precision 32. -/
def Extent.bound : Extent → Int
  | .width => 0x8000000000000000
  | .precision => 0x80000000

/-- Why a message is not put together from a pattern and arguments. -/
inductive PatternError
  | tooFew
  | tooMany
  | notNumber (conversion : Char) (kind : String)
  | notInteger (conversion : Char) (kind : String)
  | notReal (kind : String)
  | notCharacter
  | characterRange
  | notMapping
  | starNotInteger
  | starTooLarge (e : Extent)
  | tooBig (e : Extent)
  | incomplete
  | incompleteKey
  | unsupported (conversion : Char) (index : Nat)
  | noEntry (key : String)
  | noIntegerOfNaN
  | noIntegerOfInfinity
  | tooLargeForFloat

/-- What is said of a pattern that does not fit its arguments. -/
def PatternError.message : PatternError → String
  | .tooFew => "not enough arguments for format string"
  | .tooMany => "not all arguments converted during string formatting"
  | .notNumber c kind => s!"%{c} format: a real number is required, not {kind}"
  | .notInteger c kind => s!"%{c} format: an integer is required, not {kind}"
  | .notReal kind => s!"must be real number, not {kind}"
  | .notCharacter => "%c requires int or char"
  | .characterRange => "%c arg not in range(0x110000)"
  | .notMapping => "format requires a mapping"
  | .starNotInteger => "* wants int"
  | .starTooLarge .width => "Python int too large to convert to C ssize_t"
  | .starTooLarge .precision => "Python int too large to convert to C int"
  | .tooBig e => s!"{e.name} too big"
  | .incomplete => "incomplete format"
  | .incompleteKey => "incomplete format key"
  | .unsupported c index =>
    let hex := String.ofList (Nat.toDigits 16 c.toNat)
    let shown := if 31 ≤ c.toNat && c.toNat < 127 then c else '?'
    s!"unsupported format character '{shown}' (0x{hex}) at index {Decimal.ofNat index}"
  | .noEntry key => Text.quote key
  | .noIntegerOfNaN => "cannot convert float NaN to integer"
  | .noIntegerOfInfinity => "cannot convert float infinity to integer"
  | .tooLargeForFloat => "int too large to convert to float"

/-! ## Faults -/

/-- How a caller tells faults apart. -/
inductive Category
  | declaration (code : ErrorCode)
  | binding
  | invalid
  | execution
  | generation
  | value
  | type
  | absence
  | key
  | runtime
  | operational
  | overflow
  | noModule
  | isDirectory
  | malformed
  | name
  | system
  deriving DecidableEq

/-- What went wrong. -/
inductive Fault
  | declaration (e : DeclError)
  | binding (e : BindingError)
  | invalid (e : Invalid)
  | execution (operation : String) (entity : Option String) (cause : Fault)
  | sharedNames (names : List String)
  | backend (kind : BackendKind) (text : String)
  | numeral (e : Decimal.NumeralError)
  | timestamp (e : Moment.TimestampError)
  | pattern (e : PatternError)
  | notPositiveSize (n : Int)
  | unknownStyle (got : Value)
  | unknownComponent (got : Value)
  | noParameter (index given : Nat)
  | notConfigured
  | noPassword
  | badTarget (target : String)
  | noSuchItem (name item : String)
  | notModels (target kind : String)
  | noModule (name : String)
  | notPackage (name parent : String)
  | relativeModule (name : String)
  | notIterable (kind : String)
  | notKey (kind : String)
  | notInterchangeKey (kind : String)
  | notForms (left right : String)
  | noForms
  | reservedName (name proposed : String)
  | unmeasured (bound shown : String)
  | notExpression (shown : String)
  | notJoined (index : Nat) (kind : String)
  | notEncoding (kind : String)
  | notDecoded (kind : Option String)
  | notNumeral (shown : String)
  | notFinite (x : Binary64)
  | notIntegral (kind : String)
  | baseGiven
  | unknownContextKey (key : String)
  | unknownLevel (name : String)
  | notLevel (got : Value)
  | noDefaultText
  | directory (path : String)

namespace Fault

/-- The text of an error that a database reports: a missing key is quoted. -/
def backendText : BackendKind → String → String
  | .key, text => Text.quote text
  | _, text => text

/-- What is said when an operation failed on an entity. -/
def executionText (operation : String) (entity : Option String) (cause : String) : String :=
  let place := match entity with
    | some e => if e = "" then "" else s!" for {e}"
    | none => ""
  s!"{operation} failed{place}: {cause}"

/-- What is said of a fault. -/
def message : Fault → String
  | declaration e => e.message
  | binding e => e.cause.message
  | invalid e => e.message
  | execution operation entity cause => executionText operation entity cause.message
  | sharedNames names =>
    "models map to the same constant prefix: " ++ ", ".intercalate names
  | backend kind text => backendText kind text
  | numeral e => e.message
  | timestamp e => e.message
  | pattern e => e.message
  | notPositiveSize n => s!"default_string_size must be positive, got {Decimal.ofInt n}"
  | unknownStyle got => s!"{got.display} is not a valid ParamStyle"
  | unknownComponent got => s!"{got.display} is not a valid ComponentType"
  | noParameter index given =>
    s!"placeholder ?{Decimal.ofNat index} has no parameter ({Decimal.ofNat given} given)"
  | notConfigured =>
    "Database connection not configured. " ++
      "Set DATABASE_URL, or POSTGRES_HOST and POSTGRES_DB environment variables."
  | noPassword => "No authentication configured. Provide POSTGRES_PASSWORD."
  | badTarget target => s!"Expected 'module:ATTRIBUTE', got {Text.quote target}"
  | noSuchItem name item => s!"Module {Text.quote name} has no attribute {Text.quote item}"
  | notModels target kind => s!"{target} is {kind}, expected ModelRegistry or list of models"
  | noModule name => s!"No module named {Text.quote name}"
  | notPackage name parent =>
    s!"No module named {Text.quote name}; {Text.quote parent} is not a package"
  | relativeModule name =>
    s!"the 'package' argument is required to perform a relative import for {Text.quote name}"
  | notIterable kind => s!"'{kind}' object is not iterable"
  | notKey kind => s!"unhashable type: '{kind}'"
  | notInterchangeKey kind => s!"keys must be str, int, float, bool or None, not {kind}"
  | notForms left right => s!"unsupported operand type(s) for |: '{left}' and '{right}'"
  | reservedName name proposed =>
    "Fields must not use names with leading underscores; e.g., use " ++
      s!"{Text.quote proposed} instead of {Text.quote name}."
  | unmeasured bound shown =>
    s!"Unable to apply constraint '{bound}' to supplied value {shown}"
  | noForms => "Cannot take a Union of no types."
  | notExpression shown => s!"Forward reference must be an expression -- got {shown}"
  | notJoined index kind =>
    s!"sequence item {Decimal.ofNat index}: expected str instance, {kind} found"
  | notEncoding kind => s!"str() argument 'encoding' must be str, not {kind}"
  | notDecoded none => "decoding str is not supported"
  | notDecoded (some kind) => s!"decoding to str: need a bytes-like object, {kind} found"
  | notNumeral shown => "invalid literal for int() with base 10: " ++
    String.ofList (shown.toList.take Decimal.shownLimit)
  | notFinite .nan => "cannot convert float NaN to integer"
  | notFinite _ => "cannot convert float infinity to integer"
  | notIntegral kind =>
    "int() argument must be a string, a bytes-like object or a real number, not " ++
      s!"'{kind}'"
  | baseGiven => "int() can't convert non-string with explicit base"
  | unknownContextKey key =>
    s!"LogContext.__init__() got an unexpected keyword argument '{key}'"
  | unknownLevel name => s!"Unknown level: {Text.quote name}"
  | notLevel got => s!"Level not an integer or a valid string: {got.display}"
  | noDefaultText => "'NoneType' object has no attribute 'replace'"
  | directory path => s!"[Errno 21] Is a directory: {Text.quote path}"

/-- The category of a pattern that does not fit its arguments. -/
def patternCategory : PatternError → Category
  | .incomplete | .incompleteKey | .unsupported _ _ | .noIntegerOfNaN | .tooBig _ => .value
  | .noEntry _ => .key
  | .characterRange | .noIntegerOfInfinity | .tooLargeForFloat | .starTooLarge _ => .overflow
  | _ => .type

/-- The category of a fault. -/
def category : Fault → Category
  | declaration e => .declaration e.cause.code
  | binding _ => .binding
  | invalid _ => .invalid
  | execution _ _ _ => .execution
  | sharedNames _ => .generation
  | backend .operational _ => .operational
  | backend .runtime _ => .runtime
  | backend .value _ => .value
  | backend .key _ => .key
  | timestamp .beyondClock => .overflow
  | timestamp .beyondWord => .system
  | pattern e => patternCategory e
  | notExpression _ => .malformed
  | reservedName _ _ => .name
  | notFinite .nan => .value
  | notFinite _ => .overflow
  | numeral _ | notNumeral _ | timestamp _ | notPositiveSize _ | unknownStyle _
  | unknownComponent _ | noParameter _ _ | notConfigured | noPassword | badTarget _
  | noSuchItem _ _ | unknownLevel _ => .value
  | notModels _ _ | relativeModule _ | notIterable _ | notKey _ | notInterchangeKey _
  | notForms _ _ | noForms | notJoined _ _ | notEncoding _ | notDecoded _ | notIntegral _
  | baseGiven | unmeasured _ _ | unknownContextKey _ | notLevel _ => .type
  | noModule _ | notPackage _ _ => .noModule
  | noDefaultText => .absence
  | directory _ => .isDirectory

/-- The fault with the model attached, if it is the refusal of a declaration
that has none. -/
def withModel (model : Value) : Fault → Fault
  | declaration e => declaration (e.withModel model)
  | f => f

end Fault

end Relvar
