/-
Mappings from values to values, in the order in which their keys first came.
Keys that compare equal are one key: a boolean or a number with a whole value
equals that integer, and text is the same whatever class it has. Writing a key
that is there keeps its place and its first spelling and takes the new value.
A collection that can change is no key.
-/
import Relvar.Value.Basic

set_option autoImplicit false

namespace Relvar.Value

/-! ## Keys -/

/-- The number that a value is, if it is one: an integer, or a number with a
fraction or without finite value. -/
def asNumber? : Value → Option (Int ⊕ Binary64)
  | bool b => some (.inl (if b then 1 else 0))
  | int n => some (.inl n)
  | real x => match x.toInt? with
    | some n => some (.inl n)
    | none => some (.inr x)
  | member _ .integer (int n) => some (.inl n)
  | _ => none

/-- Whether two numbers are equal. -/
def sameNumber : Int ⊕ Binary64 → Int ⊕ Binary64 → Bool
  | .inl m, .inl n => m == n
  | .inr x, .inr y => x.same y
  | _, _ => false

/-- Whether two keys without members are equal. -/
def sameAtom (a b : Value) : Bool :=
  match a.asNumber?, b.asNumber? with
  | some x, some y => sameNumber x y
  | none, none => match a.asText?, b.asText? with
    | some s, some t => s == t
    | none, none => match a, b with
      | null, null => true
      | bytes x, bytes y => x == y
      | date x, date y => x == y
      | moment x, moment y => x.same y
      | type f, type g => f.same g
      | _, _ => false
    | _, _ => false
  | _, _ => false

mutual

/-- Whether two keys are equal. -/
def sameKey : Value → Value → Bool
  | tuple xs, tuple ys => sameKeys xs ys
  | list xs, list ys => sameKeys xs ys
  | a, b => sameAtom a b

/-- Whether two sequences of keys are equal. -/
def sameKeys : List Value → List Value → Bool
  | [], [] => true
  | x :: xs, y :: ys => sameKey x y && sameKeys xs ys
  | _, _ => false

end

mutual

/-- The class of the part of a value because of which the value is no key. -/
def notKey? : Value → Option String
  | list _ => some "list"
  | dict _ => some "dict"
  | record as => some (record as).fullKind
  | object c _ => some c
  | field _ => some "dict"
  | model m => if m.fields.isEmpty then none else some "dict"
  | tuple xs => notKeys? xs
  | _ => none

/-- The class of the first part of several values that is no key. -/
def notKeys? : List Value → Option String
  | [] => none
  | x :: xs => (notKey? x).or (notKeys? xs)

end

end Relvar.Value

/-! ## Entries -/

namespace Relvar.Dict

/-- The value of a key. -/
def find? (es : List (Value × Value)) (k : Value) : Option Value :=
  (es.find? fun e => e.1.sameKey k).map (·.2)

/-- Whether a key is there. -/
def contains (es : List (Value × Value)) (k : Value) : Bool := es.any fun e => e.1.sameKey k

/-- The entries after a key takes a value. -/
def insert (es : List (Value × Value)) (k v : Value) : List (Value × Value) :=
  if contains es k then es.map fun e => if e.1.sameKey k then (e.1, v) else e
  else es ++ [(k, v)]

/-- The entries after several others are written over them. -/
def merge (es fs : List (Value × Value)) : List (Value × Value) :=
  fs.foldl (fun es e => insert es e.1 e.2) es

/-- The mapping of a list of entries in which keys may repeat. -/
def ofList (es : List (Value × Value)) : List (Value × Value) := merge [] es

/-- Entries with strings for keys. -/
def ofStrings (es : List (String × Value)) : List (Value × Value) :=
  es.map fun e => (.str e.1, e.2)

/-- Named values with one more: a name that is there keeps its place and takes the
new value. -/
def insertNamed (es : List (String × Value)) (name : String) (v : Value) :
    List (String × Value) :=
  if es.any (·.1 == name) then es.map fun e => if e.1 == name then (name, v) else e
  else es ++ [(name, v)]

end Relvar.Dict
