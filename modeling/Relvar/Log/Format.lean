/-
The two forms of a log line. For people a line has the time to the second, the
level, the logger, the context in square brackets, the message and the data that
is no part of a context. For programs it is one object with the same parts and
the place it was written from.
-/
import Relvar.Log.Pattern
import Relvar.Log.Record
import Relvar.Value.Json

set_option autoImplicit false

namespace Relvar.Log

/-- The two forms of a line. -/
inductive LineStyle
  | human
  | structured
  deriving DecidableEq

/-- An attached error as text. -/
def Attached.line (e : Attached) : String :=
  if e.text = "" then e.kind else e.kind ++ ": " ++ e.text

namespace Record

/-- The message of a record with its arguments. -/
def messageText (r : Record) : Except Fault String := (compose r.message r.args).mapError .pattern

/-! ## For people -/

/-- The parts of a context that a line for people shows, with their labels. -/
def labels : List (ContextPart × String) :=
  [(.model, "model"), (.fieldName, "field"), (.operation, "op")]

/-- The context in square brackets, if there is one. -/
def tags (c : Context) : String :=
  let shown := labels.filterMap fun (part, label) =>
    if (c.get part).isTruthy then some (label ++ "=" ++ (c.get part).text) else none
  if shown.isEmpty then "" else " [" ++ ", ".intercalate shown ++ "]"

/-- Whether a key names a part of a context. -/
def isContextKey (k : Value) : Bool := ContextPart.all.any fun p => k.sameKey (.str p.name)

/-- A text padded with spaces to a width. -/
def padRight (width : Nat) (s : String) : String :=
  s ++ String.ofList (List.replicate (width - s.length) ' ')

/-- The line for people. -/
def humanLine (r : Record) : Except Fault String := do
  let data := r.data.filter fun e => !isContextKey e.1
  let shown := if data.isEmpty then "" else " " ++ (Value.dict data).display
  let message ← r.messageText
  let line := r.time.stamp ++ " " ++ padRight 8 r.level.name ++ " " ++ r.logger ++
    tags r.context ++ ": " ++ message ++ shown
  return match r.attached with
    | some e => line ++ "\n" ++ e.line
    | none => line

/-! ## For programs -/

/-- The last part of a path. -/
def baseName (path : String) : String :=
  String.ofList (path.toList.reverse.takeWhile (· != '/')).reverse

/-- Entries under a name, unless there are none. -/
def entriesUnder (name : String) (es : List (Value × Value)) : List (String × Value) :=
  if es.isEmpty then [] else [(name, .dict es)]

/-- The object of a record. -/
def object (r : Record) : Except Fault Value := do
  let message ← r.messageText
  let parts : List (String × Value) :=
    [("timestamp", .str r.time.iso), ("level", .str r.level.name), ("logger", .str r.logger),
      ("message", .str message)] ++
    entriesUnder "context" r.context.entries ++
    (match r.extra with
      | some v => if v.isTruthy then [("data", v)] else []
      | none => []) ++
    (r.attached.map fun e => ("exception", Value.str e.line)).toList ++
    [("source", .dict (Dict.ofStrings
      [("file", .str (baseName r.origin.file)), ("line", .int r.origin.line),
        ("function", .str r.origin.function)]))]
  return .dict (Dict.ofStrings parts)

/-- The line for programs. -/
def structuredLine (r : Record) : Except Fault String := do
  let v ← r.object
  (Json.line v).mapError .notInterchangeKey

/-- The line in a style. -/
def line (style : LineStyle) (r : Record) : Except Fault String :=
  match style with
  | .human => r.humanLine
  | .structured => r.structuredLine

end Record

end Relvar.Log
