/-
A reader of source text, as the language of generated modules reads it: characters first,
then tokens, then statements and what they bind. It knows nothing of how modules are
generated. It reads a part of the language: texts, names, tuples and mappings, and what
assigns them to names, each statement at the start of a line. What is outside of this part
is not read at all.
-/
import Relvar.Text.Quoted
import Relvar.Value.Dict

set_option autoImplicit false

namespace Relvar.Source

open Relvar.Text (singleQuote doubleQuote)

/-! ## Tokens -/

/-- A token. The blanks that a line starts with are one, and so is the end of a line. -/
inductive Token
  | name (s : String)
  | text (s : String)
  | sign (c : Char)
  | indent
  | newline
  deriving DecidableEq

/-- What a text stands between: a quote, or three of them. -/
structure Quote where
  mark : Char
  isLong : Bool
  deriving DecidableEq

/-- What the scanner is in the middle of: the start of a line, a place between tokens, a
comment, a name, a text of which one quote was read, or two, the inside of a text, quotes that
may close a long text, an escape, or the digits of a code point of which some are left. -/
inductive Mode
  | start
  | gap
  | comment
  | name (read : List Char)
  | opened (mark : Char)
  | twice (mark : Char)
  | text (q : Quote) (read : List Char)
  | closing (mark : Char) (read : List Char) (count : Nat)
  | escape (q : Quote) (read : List Char)
  | code (q : Quote) (read : List Char) (left value : Nat)
  deriving DecidableEq

/-- What a character does: the tokens that it completes, and what follows. -/
abbrev Move := Option (List Token × Mode)

namespace Scanner

/-- Whether a name starts with a character. -/
def isNameStart (c : Char) : Bool := c.isAlpha || c = '_'

/-- Whether a name goes on with a character. -/
def isNameChar (c : Char) : Bool := c.isAlphanum || c = '_'

/-- Whether a character is a quote. -/
def isQuote (c : Char) : Bool := c = singleQuote || c = doubleQuote

/-- Whether a character stands nowhere in a source but at the end of a line, if at all. -/
def isForeign (c : Char) : Bool := c = '\r' || c = '\x00'

/-- The brackets of a mapping. -/
def openBrace : Char := '\x7b'

/-- The bracket that closes a mapping. -/
def closeBrace : Char := '\x7d'

/-- The characters that are tokens of their own. -/
def signs : List Char := ['(', ')', openBrace, closeBrace, ',', ':', '=']

/-- What a character opens between two tokens. -/
def opens (c : Char) : Move :=
  if c = ' ' then some ([], .gap)
  else if c = '\n' then some ([.newline], .start)
  else if c = '#' then some ([], .comment)
  else if isNameStart c then some ([], .name [c])
  else if isQuote c then some ([], .opened c)
  else if c ∈ signs then some ([.sign c], .gap)
  else none

/-- What a character opens behind a token. -/
def opensBehind (t : Token) (c : Char) : Move := (opens c).map fun (ts, m) => (t :: ts, m)

/-- The value of a hexadecimal digit, small or capital. -/
def hexDigit? (c : Char) : Option Nat :=
  if c.isDigit then some (c.toNat - 48)
  else if 'a' ≤ c ∧ c ≤ 'f' then some (c.toNat - 87)
  else if 'A' ≤ c ∧ c ≤ 'F' then some (c.toNat - 55)
  else none

/-- What a character stands for behind a backslash. A line that ends there goes on. -/
def escaped? : Char → Option (List Char)
  | '\n' => some []
  | '\\' => some ['\\']
  | '\x27' => some [singleQuote]
  | '\x22' => some [doubleQuote]
  | 'a' => some ['\x07']
  | 'b' => some ['\x08']
  | 'f' => some ['\x0C']
  | 'n' => some ['\n']
  | 'r' => some ['\r']
  | 't' => some ['\t']
  | 'v' => some ['\x0B']
  | _ => none

/-- How many digits a code point has that a letter behind a backslash announces. -/
def codeLength? : Char → Option Nat
  | 'x' => some 2
  | 'u' => some 4
  | 'U' => some 8
  | _ => none

/-- What a character does inside a text. A text between single quotes ends with its line at
the latest. -/
def inText (q : Quote) (read : List Char) (c : Char) : Move :=
  if c = '\\' then some ([], .escape q read)
  else if c = q.mark then
    if q.isLong then some ([], .closing q.mark read 1)
    else some ([.text (String.ofList read)], .gap)
  else if isForeign c || (c = '\n' && !q.isLong) then none
  else some ([], .text q (read ++ [c]))

/-- What a digit of a code point does. -/
def inCode (q : Quote) (read : List Char) (left value : Nat) (c : Char) : Move := do
  let d ← hexDigit? c
  let value := value * 16 + d
  if 1 < left then return ([], .code q read (left - 1) value)
  else if value.isValidChar then return ([], .text q (read ++ [Char.ofNat value]))
  else none

/-- What a character does. A quote right behind a name would make another kind of text. -/
def step : Mode → Char → Move
  | .start, c => if c = ' ' then some ([.indent], .gap) else opens c
  | .gap, c => opens c
  | .comment, c =>
    if c = '\n' then some ([.newline], .start)
    else if isForeign c then none
    else some ([], .comment)
  | .name w, c =>
    if isNameChar c then some ([], .name (w ++ [c]))
    else if isQuote c then none
    else opensBehind (.name (String.ofList w)) c
  | .opened mark, c => if c = mark then some ([], .twice mark) else inText ⟨mark, false⟩ [] c
  | .twice mark, c =>
    if c = mark then some ([], .text ⟨mark, true⟩ []) else opensBehind (.text "") c
  | .text q read, c => inText q read c
  | .closing mark read count, c =>
    if c = mark then
      if count = 2 then some ([.text (String.ofList read)], .gap)
      else some ([], .closing mark read (count + 1))
    else inText ⟨mark, true⟩ (read ++ List.replicate count mark) c
  | .escape q read, c => match codeLength? c with
    | some n => some ([], .code q read n 0)
    | none => (escaped? c).map fun cs => ([], .text q (read ++ cs))
  | .code q read left value, c => inCode q read left value c

/-- The tokens that the end of the source completes. The last line ends there. -/
def close : Mode → Option (List Token)
  | .start => some []
  | .gap | .comment => some [.newline]
  | .name w => some [.name (String.ofList w), .newline]
  | .twice _ => some [.text "", .newline]
  | _ => none

/-- What several characters do, one after the other. -/
def advance (m : Mode) : List Char → Move
  | [] => some ([], m)
  | c :: s => do
    let (ts, m) ← step m c
    let (us, m) ← advance m s
    return (ts ++ us, m)

end Scanner

/-- The tokens of a source. -/
def tokens (source : String) : Option (List Token) := do
  let (ts, m) ← Scanner.advance .start source.toList
  let us ← Scanner.close m
  return ts ++ us

example : tokens "N = ('a\\x62', 'it\\'s',)  # names\n" =
    some [.name "N", .sign '=', .sign '(', .text "ab", .sign ',', .text "it's", .sign ',',
      .sign ')', .newline] := by decide

/-! ## Statements -/

/-- An expression. -/
inductive Expr
  | text (s : String)
  | name (s : String)
  | tuple (es : List Expr)
  | dict (es : List (Expr × Expr))

/-- A statement: an expression, which may be assigned to a name. -/
structure Statement where
  target : Option String
  value : Expr

/-- The words that are no names. -/
def reserved : List String :=
  ["False", "None", "True", "__debug__", "and", "as", "assert", "async", "await", "break", "class",
    "continue", "def", "del", "elif", "else", "except", "finally", "for", "from", "global", "if",
    "import", "in", "is", "lambda", "nonlocal", "not", "or", "pass", "raise", "return", "try",
    "while", "with", "yield"]

/-- A bracket that is open, with what was read in it: the items in front of a comma, or the
entries in front of a comma and the key in front of a colon. -/
inductive Frame
  | round (items : List Expr)
  | curly (entries : List (Expr × Expr)) (key : Option Expr)

/-- What was read of a source: the statements that are done, and of the next one whether blanks
are in front of it, the name that it assigns to, the brackets that are open, and the expression
that stands there. -/
structure Reading where
  done : List Statement
  indented : Bool
  target : Option String
  frames : List Frame
  read : Option Expr

namespace Reading

/-- Between two statements. -/
def between (done : List Statement) : Reading := ⟨done, false, none, [], none⟩

/-- An expression is read where none stands yet. -/
def place (r : Reading) (e : Expr) : Option Reading :=
  if r.read.isNone then some { r with read := some e } else none

/-- The innermost bracket is closed, and is an expression. -/
def closeWith (r : Reading) (fs : List Frame) (e : Expr) : Option Reading :=
  some { r with frames := fs, read := some e }

/-- The innermost bracket goes on. -/
def goOn (r : Reading) (f : Frame) (fs : List Frame) : Option Reading :=
  some { r with frames := f :: fs, read := none }

/-- What a sign does. Brackets around one expression without a comma are no tuple. -/
def sign (r : Reading) (c : Char) : Option Reading :=
  if c = '=' then match r.target, r.frames, r.read with
    | none, [], some (.name x) => some { r with target := some x, read := none }
    | _, _, _ => none
  else if c = '(' then if r.read.isNone then r.goOn (.round []) r.frames else none
  else if c = ')' then match r.frames, r.read with
    | .round [] :: fs, some e => r.closeWith fs e
    | .round es :: fs, e => r.closeWith fs (.tuple (es ++ e.toList))
    | _, _ => none
  else if c = Scanner.openBrace then
    if r.read.isNone then r.goOn (.curly [] none) r.frames else none
  else if c = ':' then match r.frames, r.read with
    | .curly es none :: fs, some k => r.goOn (.curly es (some k)) fs
    | _, _ => none
  else if c = ',' then match r.frames, r.read with
    | .round es :: fs, some e => r.goOn (.round (es ++ [e])) fs
    | .curly es (some k) :: fs, some e => r.goOn (.curly (es ++ [(k, e)]) none) fs
    | _, _ => none
  else if c = Scanner.closeBrace then match r.frames, r.read with
    | .curly es none :: fs, none => r.closeWith fs (.dict es)
    | .curly es (some k) :: fs, some e => r.closeWith fs (.dict (es ++ [(k, e)]))
    | _, _ => none
  else none

/-- What the end of a line does: between brackets nothing, else it ends a statement. -/
def endLine (r : Reading) : Option Reading :=
  if r.frames.isEmpty then match r.target, r.read with
    | none, none => some (between r.done)
    | some _, none => none
    | target, some e => some (between (r.done ++ [⟨target, e⟩]))
  else some r

/-- What a token does. Blanks in front of a statement are an error, between brackets they are
not. -/
def step (r : Reading) : Token → Option Reading
  | .newline => r.endLine
  | .indent => some { r with indented := r.frames.isEmpty }
  | t => if r.indented then none else match t with
    | .name s => if s ∈ reserved then none else r.place (.name s)
    | .text s => r.place (.text s)
    | .sign c => r.sign c
    | _ => none

end Reading

/-- The statements of tokens. -/
def statements (ts : List Token) : Option (List Statement) := do
  let r ← ts.foldlM Reading.step (.between [])
  if r.frames.isEmpty && r.target.isNone && r.read.isNone then return r.done else none

/-! ## Bindings -/

/-- Names with their values, the latest first. -/
abbrev Bindings := List (String × Value)

mutual

/-- The value of an expression. A name has the value that it was bound to last. -/
def Expr.eval (env : Bindings) : Expr → Option Value
  | .text s => some (.str s)
  | .name x => env.lookup x
  | .tuple es => (evalAll env es).map .tuple
  | .dict es => (evalEntries env [] es).map .dict

/-- The values of expressions. -/
def evalAll (env : Bindings) : List Expr → Option (List Value)
  | [] => some []
  | e :: es => do
    let v ← e.eval env
    let vs ← evalAll env es
    return v :: vs

/-- The entries of a mapping behind others. A later entry overrides an earlier one with the
same key. -/
def evalEntries (env : Bindings) (before : List (Value × Value)) :
    List (Expr × Expr) → Option (List (Value × Value))
  | [] => some before
  | (k, e) :: es => do
    let key ← k.eval env
    let v ← e.eval env
    if key.notKey?.isNone then evalEntries env (Dict.insert before key v) es else none

end

/-- What a statement binds. -/
def Statement.exec (env : Bindings) (s : Statement) : Option Bindings := do
  let v ← s.value.eval env
  match s.target with
  | none => return env
  | some x => return (x, v) :: env

/-- What a source binds: its statements are carried out in their order. -/
def bindings (source : String) : Option Bindings := do
  let ts ← tokens source
  let ss ← statements ts
  ss.foldlM Statement.exec []

end Relvar.Source
