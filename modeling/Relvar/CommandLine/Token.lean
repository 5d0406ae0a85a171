/-
Tokens of the command line: what each argument is by itself. An argument that
starts with a dash is an option if it is spelled like one, perhaps with a value
after an equals sign, or if it starts as exactly one option does. A negative
number and an argument with a space are values in spite of their dash. After two
dashes alone every argument is a value.
-/
import Relvar.CommandLine.Option
import Relvar.Text.CodeRanges

set_option autoImplicit false

namespace Relvar.CommandLine

/-- The value that is attached to an option: none, one after an equals sign, or
one that follows at once. -/
inductive Attached
  | none
  | afterEquals (s : List Char)
  | atOnce (s : List Char)

/-- A token. A switch knows whether it is a short one. -/
inductive Token
  | value (s : String)
  | dashes
  | known (o : Opt) (isShort : Bool) (attached : Attached)
  | unknown (s : String)

namespace Token

/-- Whether a spelling is a short one. -/
def isShort (s : List Char) : Bool := (s.drop 1).head? != some '-'

/-- What stands before the first equals sign, and what after it, if there is one. -/
def splitEquals (s : List Char) : List Char × Option (List Char) :=
  let front := s.takeWhile (· != '=')
  match s.drop front.length with
  | [] => (front, none)
  | _ :: back => (front, some back)

/-- A value after an equals sign, if there is one. -/
def attachedOf : Option (List Char) → Attached
  | none => .none
  | some s => .afterEquals s

/-- The options that a long argument may be short for, with what is attached. -/
def longCandidates (s : List Char) : List (String × Opt × Attached) :=
  let (front, back) := splitEquals s
  Opt.table.filterMap fun (spelling, o) =>
    if front.isPrefixOf spelling.toList then some (spelling, o, attachedOf back) else none

/-- The options that a short argument may start with, with what is attached. -/
def shortCandidates (s : List Char) : List (String × Opt × Attached) :=
  Opt.table.filterMap fun (spelling, o) =>
    if spelling.toList = s.take 2 then some (spelling, o, .atOnce (s.drop 2))
    else if s.isPrefixOf spelling.toList then some (spelling, o, .none)
    else none

/-- The options that an argument may stand for, with what is attached. -/
def candidates (s : List Char) : List (String × Opt × Attached) :=
  if isShort s then shortCandidates s else longCandidates s

/-- Whether digits make a number, perhaps with a point and perhaps with a line
feed at the end. -/
def isNumber (s : List Char) : Bool :=
  let s := if s.getLast? = some '\n' then s.dropLast else s
  let whole := s.takeWhile Text.isDecimal
  match s.drop whole.length with
  | [] => !whole.isEmpty
  | c :: fraction => c = '.' && !fraction.isEmpty && fraction.all Text.isDecimal

/-- An argument with a dash that stands for no option. -/
def ofUnmatched (s : List Char) : Token :=
  let text := String.ofList s
  if isNumber (s.drop 1) || s.contains ' ' then .value text else .unknown text

/-- The token of an argument with a dash that is not spelled like an option. -/
def ofDashed (s : List Char) : Except UsageError Token :=
  match candidates s with
  | [] => .ok (ofUnmatched s)
  | [(spelling, o, attached)] => .ok (.known o (isShort spelling.toList) attached)
  | cs => .error (.ambiguous (String.ofList s) (cs.map (·.1)))

/-- The token of an argument that is spelled like an option, perhaps with a value
after an equals sign. -/
def spelledLike? (s : List Char) : Option Token :=
  match Opt.ofSpelling? (String.ofList s) with
  | some o => some (.known o (isShort s) .none)
  | none => match splitEquals s with
    | (front, some back) =>
      (Opt.ofSpelling? (String.ofList front)).map fun o =>
        .known o (isShort front) (.afterEquals back)
    | (_, none) => none

/-- The token of an argument. -/
def ofArgument (argument : String) : Except UsageError Token :=
  let s := argument.toList
  if s.head? != some '-' || s.length = 1 then .ok (.value argument)
  else match spelledLike? s with
    | some t => .ok t
    | none => ofDashed s

/-- The tokens of arguments. -/
def ofArguments : List String → Except UsageError (List Token)
  | [] => .ok []
  | a :: as =>
    if a = "--" then .ok (.dashes :: as.map .value)
    else do
      let t ← ofArgument a
      let ts ← ofArguments as
      return t :: ts

end Token

end Relvar.CommandLine
