/-
Type forms in writing: names, names with forms between square brackets, and
forms joined by bars. What is written stands for a form if each of its names
stands for a class; a name that stands for none leaves the whole unresolved.
-/
import Relvar.Text.Expression
import Relvar.TypeForm

set_option autoImplicit false

namespace Relvar

open Text.Expression (Token)

/-- A form in writing. -/
inductive WrittenForm
  | name (s : String)
  | applied (s : String) (arguments : List WrittenForm)
  | joined (left right : WrittenForm)

namespace WrittenForm

/-! ## Reading -/

mutual

/-- Forms joined by bars that tokens start with, and what follows them. The fuel is
at least twice the number of tokens. -/
def take : Nat → List Token → Option (WrittenForm × List Token)
  | 0, _ => none
  | fuel + 1, .name s :: .mark "[" :: ts => do
    let (arguments, rest) ← takeArguments fuel ts
    takeJoined fuel (applied s arguments) rest
  | fuel + 1, .name s :: ts => takeJoined fuel (name s) ts
  | _, _ => none

/-- What joins a form, and what follows it. -/
def takeJoined : Nat → WrittenForm → List Token → Option (WrittenForm × List Token)
  | 0, _, _ => none
  | fuel + 1, left, .mark "|" :: .name s :: .mark "[" :: ts => do
    let (arguments, rest) ← takeArguments fuel ts
    takeJoined fuel (joined left (applied s arguments)) rest
  | fuel + 1, left, .mark "|" :: .name s :: ts => takeJoined fuel (joined left (name s)) ts
  | _, left, ts => some (left, ts)

/-- The forms up to a closing bracket, and what follows it. -/
def takeArguments : Nat → List Token → Option (List WrittenForm × List Token)
  | 0, _ => none
  | fuel + 1, ts => do
    let (first, rest) ← take fuel ts
    match rest with
    | .mark "]" :: rest => some ([first], rest)
    | .mark "," :: rest =>
      let (others, rest) ← takeArguments fuel rest
      some (first :: others, rest)
    | _ => none

end

/-- The form that tokens write. -/
def ofTokens? (ts : List Token) : Option WrittenForm :=
  match take (2 * ts.length + 1) ts with
  | some (w, []) => some w
  | _ => none

/-! ## Meaning -/

/-- The classes whose names stand for them everywhere. -/
def builtIn : List NamedClass :=
  [.int, .str, .float, .bool, .bytes, .list, .dict, .tuple, .object, .complex]

/-- The names of the classes that take any number of forms between brackets. -/
def generic : List String := ["dict", "tuple", "set", "frozenset", "type"]

/-- The form that a name stands for, among the forms that are known by name. -/
def resolveName (known : List (String × TypeForm)) (s : String) : Option TypeForm :=
  if s = "None" then some (.named .none)
  else ((known.find? (·.1 == s)).map (·.2)).or
    ((builtIn.find? (·.name == s)).map TypeForm.named)

/-- The form of a name with forms between brackets. -/
def apply (s : String) (arguments : List TypeForm) : Option TypeForm :=
  match arguments with
  | [f] => if s = "list" then some (.list false f) else other
  | _ => other
where
  /-- The form of a name other than that of lists. -/
  other : Option TypeForm :=
    if generic.contains s then
      some (.literal (s ++ "[" ++ ", ".intercalate (arguments.map TypeForm.inner) ++ "]"))
    else none

mutual

/-- The form that is written, if each of its names stands for something. -/
def resolve (known : List (String × TypeForm)) : WrittenForm → Option TypeForm
  | name s => resolveName known s
  | applied s ws => (resolveAll known ws).bind (apply s)
  | joined a b => do
    let f ← resolve known a
    let g ← resolve known b
    return .joined [f, g]

/-- The forms that are written, if each of their names stands for something. -/
def resolveAll (known : List (String × TypeForm)) : List WrittenForm → Option (List TypeForm)
  | [] => some []
  | w :: ws => do
    let f ← resolve known w
    let fs ← resolveAll known ws
    return f :: fs

end

end WrittenForm

namespace TypeForm

/-- The form that a text writes, if each of its names stands for something. -/
def ofText? (known : List (String × TypeForm)) (s : String) : Option TypeForm := do
  let tokens ← Text.Expression.ofText? s
  let written ← WrittenForm.ofTokens? tokens
  written.resolve known

mutual

/-- The form with its names replaced by what they stand for, if each stands for
something. -/
def resolved? (known : List (String × TypeForm)) : TypeForm → Option TypeForm
  | forward name _ => ofText? known name
  | text s _ => ofText? known s
  | union bars ms => do
    let fs ← resolvedAll? known ms
    return if bars then joined fs else unionOf false fs
  | list capital item => (resolved? known item).map (list capital)
  | f => some f

/-- The forms with their names replaced, if each stands for something. -/
def resolvedAll? (known : List (String × TypeForm)) : List TypeForm → Option (List TypeForm)
  | [] => some []
  | f :: fs => do
    let g ← resolved? known f
    let gs ← resolvedAll? known fs
    return g :: gs

end

end TypeForm

end Relvar
