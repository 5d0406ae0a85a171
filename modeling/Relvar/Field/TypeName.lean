/-
Types of fields as declarations write them. A type is named by its own name, by
a field type, by a class, or by any of these made optional: in text `Optional`
or `Option` with the type between square or angle brackets, among type forms a
union with the empty class. One optional wrapper is taken off, never two. Blanks
around the parts do not count, but a wrapper stands on one line.
-/
import Relvar.Declaration.Error
import Relvar.Text.CodeRanges

set_option autoImplicit false

namespace Relvar.TypeName

open Relvar.Text

/-! ## Wrappers in text -/

/-- What follows a word that a text starts with. -/
def afterWord? (word : List Char) (s : List Char) : Option (List Char) :=
  if word.isPrefixOf s then some (s.drop word.length) else none

/-- What follows the name of a wrapper. -/
def afterWrapper? (s : List Char) : Option (List Char) :=
  (afterWord? "Optional".toList s).or (afterWord? "Option".toList s)

/-- What stands between two brackets that enclose a text: at least one character
and no line feed. -/
def enclosed? (opening closing : Char) : List Char → Option (List Char)
  | [] => none
  | c :: rest =>
    let inner := rest.dropLast
    if c = opening && rest.getLast? = some closing && !inner.isEmpty && !inner.contains '\n' then
      some inner
    else none

/-- The type inside a wrapper, if the text is one. -/
def unwrapText? (s : List Char) : Option (List Char) := do
  let rest ← afterWrapper? (trim s)
  let body := trimStart rest
  let inner ← (enclosed? '[' ']' body).or (enclosed? '<' '>' body)
  return trim inner

/-! ## Types -/

/-- The type inside one optional wrapper, and whether there was one. -/
def unwrap (v : Value) : Except Cause (Value × Bool) :=
  match v with
  | .semantic _ => .ok (v, false)
  | .type (.union bars ms) =>
    let inner := ms.filter fun m => !m.same (.named .none)
    match ms.length, inner with
    | 2, [m] => .ok (.type m, true)
    | _, _ => .error (.notOptional (TypeForm.union bars ms).display)
  | _ => match v.asText? with
    | some s => match unwrapText? s.toList with
      | some inner => .ok (.str (String.ofList inner), true)
      | none => .ok (.str (trimmed s), false)
    | none => .ok (v, false)

/-- The field type that stands for a class. -/
def ofClass? : NamedClass → Option FieldType
  | .bool => some .boolean
  | .int => some .integer
  | .float => some .float
  | .str => some .string
  | .datetime => some .dateTime
  | .date => some .date
  | _ => none

/-- The name by which a refusal speaks of a type. -/
def label : Value → String
  | .type (.named c) => c.name
  | .recordClass c => c.name
  | v => v.text

/-- The field type that a value without a wrapper names. -/
def resolve? (v : Value) : Option FieldType :=
  match v with
  | .semantic t => some t
  | .type (.named c) => ofClass? c
  | _ => v.asText?.bind FieldType.ofName?

/-- The field type that a value without a wrapper names, or why it names none. -/
def resolve (v : Value) : Except Cause FieldType :=
  match resolve? v with
  | some t => .ok t
  | none => .error (.unexpectedType (label v))

end Relvar.TypeName
