/-
Data interchange text of values, in ASCII. A string escapes what is not
printable ASCII by its UTF-16 units, a mapping has strings for keys (numbers,
booleans and nothing are spelled out), and a value that is no data is written
as its text. The text is on one line, or on many with a given indentation.
-/
import Relvar.Value.Display

set_option autoImplicit false

namespace Relvar.Json

open Relvar.Text

/-! ## Strings -/

/-- A code unit of sixteen bits as an escape. -/
def unitEscape (n : Nat) : List Char := '\\' :: 'u' :: hexPadded 4 n

/-- How a character stands in a string. -/
def escaped (c : Char) : List Char :=
  let n := c.toNat
  if c = doubleQuote || c = '\\' then ['\\', c]
  else if c = '\n' then ['\\', 'n']
  else if c = '\r' then ['\\', 'r']
  else if c = '\t' then ['\\', 't']
  else if n = 0x08 then ['\\', 'b']
  else if n = 0x0C then ['\\', 'f']
  else if 0x20 ≤ n && n < 0x7F then [c]
  else if n < 0x10000 then unitEscape n
  else
    let m := n - 0x10000
    unitEscape (0xD800 + m / 0x400) ++ unitEscape (0xDC00 + m % 0x400)

/-- A string between double quotes. -/
def string (s : String) : String :=
  String.ofList (doubleQuote :: s.toList.flatMap escaped ++ [doubleQuote])

/-! ## Layout -/

/-- How the members of a collection are set apart: on one line, or each on a
line of its own that is indented by so many spaces a level. -/
inductive Layout
  | line
  | indented (spaces : Nat)

/-- What stands before the first member of a collection at a level. -/
def Layout.opening : Layout → Nat → String
  | .line, _ => ""
  | .indented n, level => "\n" ++ String.ofList (List.replicate (n * (level + 1)) ' ')

/-- What stands between two members of a collection at a level. -/
def Layout.between : Layout → Nat → String
  | .line, _ => ", "
  | .indented n, level => "," ++ (Layout.indented n).opening level

/-- What stands after the last member of a collection at a level. -/
def Layout.closing : Layout → Nat → String
  | .line, _ => ""
  | .indented n, level => "\n" ++ String.ofList (List.replicate (n * level) ' ')

/-- Members between brackets. -/
def collection (l : Layout) (level : Nat) (o c : String) (items : List String) : String :=
  if items.isEmpty then o ++ c
  else o ++ l.opening level ++ (l.between level).intercalate items ++ l.closing level ++ c

/-! ## Values -/

/-- The string that a key is written as, or the class of what is no key. -/
def key : Value → Except String String
  | .null => .ok "null"
  | .bool b => .ok (if b then "true" else "false")
  | .real x => .ok (x.textIn .interchange)
  | v => match v.asText?, v.asInt? with
    | some s, _ => .ok s
    | none, some n => .ok (Decimal.ofInt n)
    | none, none => .error v.fullKind

/-- The text of a value without members: data is written as it is and all else
as a string. -/
def atom : Value → String
  | .null => "null"
  | .bool b => if b then "true" else "false"
  | .real x => x.textIn .interchange
  | v => match v.asText?, v.asInt? with
    | some s, _ => string s
    | none, some n => Decimal.ofInt n
    | none, none => string v.text

mutual

/-- The text of a value at a level, or the class of a key that is none. -/
def render (l : Layout) (level : Nat) : Value → Except String String
  | .list xs => (renderAll l (level + 1) xs).map (collection l level "[" "]")
  | .tuple xs => (renderAll l (level + 1) xs).map (collection l level "[" "]")
  | .dict es => (renderEntries l (level + 1) es).map (collection l level "\x7b" "\x7d")
  | v => .ok (atom v)

/-- The texts of several values. -/
def renderAll (l : Layout) (level : Nat) : List Value → Except String (List String)
  | [] => .ok []
  | x :: xs => do
    let s ← render l level x
    let ss ← renderAll l level xs
    return s :: ss

/-- The texts of the entries of a mapping. -/
def renderEntries (l : Layout) (level : Nat) : List (Value × Value) → Except String (List String)
  | [] => .ok []
  | (k, v) :: es => do
    let name ← key k
    let s ← render l level v
    let ss ← renderEntries l level es
    return (string name ++ ": " ++ s) :: ss

end

/-- The text of a value on one line, or the class of a key that is none. -/
def line (v : Value) : Except String String := render .line 0 v

/-- The text of a value on many lines, or the class of a key that is none. -/
def page (spaces : Nat) (v : Value) : Except String String := render (.indented spaces) 0 v

end Relvar.Json
