/-
Requests: what a command line asks for. The arguments are taken in order. Asking
for help or for the version ends it at once; what is not recognized is refused
only at the end, and only if all options that must be there are.
-/
import Relvar.CommandLine.Token

set_option autoImplicit false

namespace Relvar.CommandLine

/-- What a command line asks for. -/
structure Request where
  models : Option String
  isDryRun : Bool
  emit : Option String
  connection : Option String
  isVerbose : Bool
  hasJsonLogs : Bool
  unrecognized : List String

/-- Why there is no request: help or the version is asked for, or the command
line is refused. -/
inductive Halt
  | help
  | version
  | refused (e : UsageError)

namespace Request

/-- The request of an empty command line. -/
def empty : Request := ⟨none, false, none, none, false, false, []⟩

/-- The request with an argument that is not recognized. -/
def leave (r : Request) (argument : String) : Request :=
  { r with unrecognized := r.unrecognized ++ [argument] }

/-- The request with a switch. -/
def switch (r : Request) : Opt → Except Halt Request
  | .help => .error .help
  | .version => .error .version
  | .dryRun => .ok { r with isDryRun := true }
  | .verbose => .ok { r with isVerbose := true }
  | .jsonLogs => .ok { r with hasJsonLogs := true }
  | _ => .ok r

/-- The request with several switches. -/
def switchAll (r : Request) : List Opt → Except Halt Request
  | [] => .ok r
  | o :: os => do
    let r ← r.switch o
    r.switchAll os

/-- The request with the value of an option. -/
def withValue (r : Request) (o : Opt) (v : String) : Request :=
  match o with
  | .models => { r with models := some v }
  | .emit => { r with emit := some v }
  | .connection => { r with connection := some v }
  | _ => r

/-- The refusal of a value that a switch does not take. -/
def ignored {α : Type} (o : Opt) (s : List Char) : Except Halt α :=
  .error (.refused (.ignoredValue o (String.ofList s)))

/-- The switches that stand together behind a short one, and the rest that is not
recognized, if any. -/
def together (o : Opt) : List Char → Except Halt (List Opt × Option String)
  | [] => .ok ([o], none)
  | c :: s =>
    if c = '-' then ignored o (c :: s)
    else match Opt.ofSpelling? (String.ofList ['-', c]) with
      | none => .ok ([o], some (String.ofList ('-' :: c :: s)))
      | some next => match s with
        | '=' :: value => ignored next value
        | s => do
          let (os, rest) ← together next s
          return (o :: os, rest)

/-- The request with a switch and what is attached to it. -/
def takeSwitch (r : Request) (o : Opt) (isShort : Bool) : Attached → Except Halt Request
  | .none => r.switch o
  | .afterEquals s => ignored o s
  | .atOnce s =>
    if isShort && !s.isEmpty then do
      let (os, rest) ← together o s
      (rest.toList.foldl leave r).switchAll os
    else ignored o s

/-- The request of several tokens, after a request. -/
def takeAll (r : Request) : List Token → Except Halt Request
  | [] => .ok r
  | .value s :: ts => (r.leave s).takeAll ts
  | .dashes :: ts => (r.leave "--").takeAll ts
  | .unknown s :: ts => (r.leave s).takeAll ts
  | .known o isShort attached :: ts =>
    if o.takesValue then
      match attached, ts with
      | .afterEquals s, ts => (r.withValue o (String.ofList s)).takeAll ts
      | .atOnce s, ts => (r.withValue o (String.ofList s)).takeAll ts
      | .none, .value s :: ts => (r.withValue o s).takeAll ts
      | .none, _ => .error (.refused (.missingValue o))
    else match r.takeSwitch o isShort attached with
      | .ok r => r.takeAll ts
      | .error h => .error h

/-- The request, if the options that must be there are and everything is
recognized. -/
def complete (r : Request) : Except Halt Request :=
  if r.models.isNone then .error (.refused (.missingOptions [.models]))
  else if r.unrecognized.isEmpty then .ok r
  else .error (.refused (.unrecognized r.unrecognized))

/-- The request of a command line. -/
def ofArguments (arguments : List String) : Except Halt Request := do
  let ts ← (Token.ofArguments arguments).mapError .refused
  let r ← empty.takeAll ts
  r.complete

end Request

end Relvar.CommandLine
