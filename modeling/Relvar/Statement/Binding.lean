/-
Statements in the style of a database. Every marker must name a parameter that
is there. Where the style numbers its markers the parameters keep their order;
where it does not, they are listed in the order of their markers, once for each.
The format style gives the percent sign a meaning, so a plain one is doubled.
-/
import Relvar.Fault
import Relvar.FieldType
import Relvar.Statement.Piece

set_option autoImplicit false

namespace Relvar

/-- The style that a value names. -/
def BindStyle.ofValue (v : Value) : Except Fault BindStyle :=
  match v.asText?.bind BindStyle.ofName? with
  | some style => .ok style
  | none => .error (.unknownStyle v)

namespace Statement

/-- A piece in a style. -/
def Piece.render (style : BindStyle) : Piece → List Char
  | .plain c => if style = .format && c = '%' then ['%', '%'] else [c]
  | .marker ds => match style with
    | .qmark => ['?']
    | .format => ['%', 's']
    | .numeric => ':' :: ds
    | .dollar => '$' :: ds

/-- The numbers of markers. -/
def numbers : List (List Char) → Except Fault (List Nat)
  | [] => .ok []
  | ds :: rest => do
    let n ← (Decimal.readDigits ds).mapError .numeral
    let ns ← numbers rest
    return n :: ns

/-- The parameters of markers, in the order of the markers. -/
def pick {α : Type} (params : List α) : List Nat → Except Fault (List α)
  | [] => .ok []
  | n :: ns =>
    match n, params[n - 1]? with
    | _ + 1, some p => do
      let ps ← pick params ns
      return p :: ps
    | _, _ => .error (.noParameter n params.length)

/-- A statement in a style, with its parameters as the style expects them. -/
def bind {α : Type} (style : BindStyle) (statement : String) (params : List α) :
    Except Fault (String × List α) := do
  let ps := pieces statement.toList
  let ns ← numbers (Piece.markers ps)
  let ordered ← pick params ns
  let text := String.ofList (ps.flatMap (Piece.render style))
  match style with
  | .qmark | .format => return (text, ordered)
  | .numeric | .dollar => return (text, params)

end Statement

end Relvar
