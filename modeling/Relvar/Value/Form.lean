/-
Type forms made from values. A value that stands inside a form is a form itself,
the name of one that is not resolved yet if it is text, or a literal. A text that
is no expression names nothing. Bars join
classes and forms, and nothing to either of them; a form that is written by name
joins any value.
-/
import Relvar.Fault
import Relvar.Text.Expression

set_option autoImplicit false

namespace Relvar.Value

/-- The form of a record class, by its full name. -/
def classForm (c : RecordClass) : TypeForm := .literal ("__main__." ++ c.name)

/-- The name that text stands for, which is not resolved yet. Only an expression
is such a name. -/
def unresolved (s shown : String) : Except Fault TypeForm :=
  match Text.Expression.ofText? s with
  | some _ => .ok (.forward s shown)
  | none => .error (.notExpression shown)

/-- The form that a value is inside a union or an optional form. -/
def form : Value → Except Fault TypeForm
  | type f => .ok f
  | null => .ok (.named .none)
  | recordClass c => .ok (classForm c)
  | v => match v.asText? with
    | some s => unresolved s v.display
    | none => .ok (.literal v.display)

/-- The forms that values are inside a union. -/
def forms : List Value → Except Fault (List TypeForm)
  | [] => .ok []
  | v :: vs => do
    let f ← form v
    let fs ← forms vs
    return f :: fs

/-- The form that a value is inside a list form with a small letter, which leaves
text and nothing as they are. -/
def itemForm : Value → TypeForm
  | type f => f
  | recordClass c => classForm c
  | v => match v.asText? with
    | some s => .text s v.display
    | none => .literal v.display

/-- A value or nothing, as a form. -/
def optional (v : Value) : Except Fault Value := (form v).map fun f => type (.optional f)

/-- The union of values, as a form. -/
def union (vs : List Value) : Except Fault Value :=
  if vs.isEmpty then .error .noForms else (forms vs).map fun fs => type (.unionOf false fs)

/-- Lists of a value, as a form. -/
def lists (capital : Bool) (v : Value) : Except Fault Value :=
  if capital then (form v).map fun f => type (.list true f)
  else .ok (type (.list false v.itemForm))

/-- Whether a value joins another one only if that is such a value too. -/
def joinsForms : Value → Bool
  | type _ | recordClass _ | null => true
  | _ => false

/-- Whether a value joins any other. -/
def joinsAll : Value → Bool
  | type f => f.writtenByName
  | _ => false

/-- Two values joined by a bar. -/
def join (a b : Value) : Except Fault Value :=
  let bothNull := a matches null && b matches null
  if joinsAll a || joinsAll b || (joinsForms a && joinsForms b && !bothNull) then
    (forms [a, b]).map fun fs => .type (.joined fs)
  else .error (.notForms a.fullKind b.fullKind)

/-- Values joined by bars, from the left. -/
def joinFrom (a : Value) : List Value → Except Fault Value
  | [] => .ok a
  | b :: bs => do
    let c ← join a b
    joinFrom c bs

/-- Values joined by bars. -/
def joinAll : List Value → Except Fault Value
  | [] => .ok null
  | a :: bs => joinFrom a bs

end Relvar.Value
