/-
Values that conform to annotations. A field of a record class takes a value that
spells one of the annotated class. A union takes what its best member makes of a
value: the one that the value fits best, and of several the first. A list is as good
as the worst of its items. Text, bytes and collections also have a length that the
field may bound.
-/
import Relvar.Fault
import Relvar.Value.Spelled.Class

set_option autoImplicit false

namespace Relvar

/-! ## Lengths -/

/-- The least and the greatest length, if they are bounded. -/
structure Lengths where
  least : Option Int
  greatest : Option Int

namespace Lengths

/-- No bounds. -/
def free : Lengths := ⟨none, none⟩

/-- Whether a length is below the least one. -/
def isShort (l : Lengths) (length : Nat) : Bool := l.least.any fun n => (length : Int) < n

/-- Whether a length is above the greatest one. -/
def isLong (l : Lengths) (length : Nat) : Bool := l.greatest.any fun n => n < (length : Int)

/-- A value of a length, or one of the two kinds of fault. -/
def check {α : Type} (l : Lengths) (short long : FaultKind) (length : Nat) (v : α) :
    Except FaultKind α :=
  if l.isShort length then .error short
  else if l.isLong length then .error long
  else .ok v

/-- The name of the first bound, if there is one. -/
def boundName? (l : Lengths) : Option String :=
  (l.least.map fun _ => "min_length").or (l.greatest.map fun _ => "max_length")

end Lengths

namespace Value

/-- The length of text, bytes or a collection. -/
def length? : Value → Option Nat
  | bytes bs => some bs.length
  | list xs | tuple xs => some xs.length
  | dict es => some es.length
  | registry ms => some ms.length
  | v => v.asText?.map (·.length)

/-- A value of a class of which the values have a length, checked. -/
def checkLength (l : Lengths) : Value → Except FaultKind Value
  | str s => l.check .tooShort .tooLongText s.length (str s)
  | bytes bs => l.check .tooShortBytes .tooLongBytes bs.length (bytes bs)
  | v => v.length?.elim (.ok v) fun n => l.check .tooFew .tooMany n v

/-- The classes of which the values have a length. -/
def measuredClasses : List NamedClass := [.str, .bytes, .list, .tuple, .dict]

/-! ## Forms -/

/-- A value that fits a form, and how well, or what offends in it. -/
abbrev Fitted := Checked (Fit × Value)

/-- What a form is called on the way to a part of a union. -/
def formLabel : TypeForm → String
  | .named .list => "list[any]"
  | .named .tuple => "tuple[any, ...]"
  | .named .dict => "dict[any,any]"
  | .named .uuid => "uuid"
  | .named .decimal => "decimal"
  | .named .none => "none"
  | .named .object => "any"
  | .named c => c.name
  | .list _ item => "list[" ++ formLabel item ++ "]"
  | f => f.inner

/-- The better of two outcomes: the first one, unless only the second succeeds or it
fits better. -/
def better (a b : Fit × Value) : Fit × Value := if b.1.order < a.1.order then b else a

/-- The best outcome of those that succeed, or all offences. -/
def bestOf (outcomes : List Fitted) : Fitted :=
  match outcomes.filterMap Except.toOption with
  | [] => .error (outcomes.flatMap Checked.offences)
  | o :: os => .ok (os.foldl better o)

/-- The items of a list with the worst of their degrees, each checked at its place. -/
def conformItems (check : List Place → Value → Fitted) (place : List Place) (index : Nat)
    (known : Fit) : List Value → Checked (Fit × List Value)
  | [] => .ok (known, [])
  | v :: vs =>
    (Checked.start fun a b => (Fit.worse a.1 b.1, a.2 :: b.2)).with
        (check (place ++ [.index index]) v)
      |>.with (conformItems check place (index + 1) known vs)

/-- How well a value fits the form of a list. -/
def listFit (v : Value) : Fit := v.fit .list

/-- A value that conforms to a form, or what offends in it. The bounds of lengths are
those of a class or list alone, also next to the empty class. -/
def conform (l : Lengths) (place : List Place) (f : TypeForm) (v : Value) : Fitted :=
  match f with
  | .named c =>
    let spelled := (v.spelledAs c).bind fun w =>
      if measuredClasses.contains c then w.checkLength l else .ok w
    (spelled.map fun w => (v.fit c, w)).mapError fun kind => [⟨kind, place⟩]
  | .union _ ms =>
    if v matches null && ms.any (·.same (.named .none)) then .ok (.exact, null)
    else
      let isSingle := (ms.filter fun m => !m.same (.named .none)).length = 1
      bestOf (ms.attach.filterMap fun m =>
        if m.val.same (.named .none) then none
        else if isSingle then some (conform l place m.val v)
        else some (conform .free (place ++ [.name (formLabel m.val)]) m.val v))
  | .list _ item => match v.spelledItems .notList with
    | .error kind => .error [⟨kind, place⟩]
    | .ok vs =>
      if l.isLong vs.length then .error [⟨.tooMany, place⟩]
      else
        let items := conformItems (fun p w => conform .free p item w) place 0 v.listFit vs
        items.bind fun ws =>
          if l.isShort vs.length then .error [⟨.tooFew, place⟩] else .ok (ws.1, list ws.2)
  | .forward _ _ | .text _ _ | .literal _ => .ok (.close, v)
termination_by sizeOf f
decreasing_by
  · have smaller := List.sizeOf_lt_of_mem m.property
    simp_wf
    omega
  · have smaller := List.sizeOf_lt_of_mem m.property
    simp_wf
    omega
  · simp_wf

/-! ## Bounds of other forms -/

/-- The members of a form other than the empty class. -/
def solidMembers (f : TypeForm) : List TypeForm :=
  f.members.filter fun m => !m.same (.named .none)

/-- Whether a form itself bounds the lengths of its values. -/
def isMeasured (f : TypeForm) : Bool :=
  match solidMembers f with
  | [.named c] => measuredClasses.contains c
  | [.list _ _] => true
  | _ => false

/-- A value of a form that does not bound lengths itself: it is measured once it is
there, and it has to have a length. -/
def measure (l : Lengths) (place : List Place) (v : Value) : Except Fault (Checked Value) :=
  match l.boundName?, v.length? with
  | none, _ => .ok (.ok v)
  | some bound, none => .error (.unmeasured bound v.text)
  | some _, some n => .ok ((l.check .tooFew .tooMany n v).mapError fun kind => [⟨kind, place⟩])

/-- What an annotated place takes of a value. -/
def conformTo (l : Lengths) (place : List Place) (f : TypeForm) (v : Value) :
    Except Fault (Checked Value) :=
  let conformed := (conform l place f v).map (·.2)
  match conformed with
  | .error es => .ok (.error es)
  | .ok w =>
    let isFree := isMeasured f || (v matches null && f.members.any (·.same (.named .none)))
    if isFree then .ok (.ok w) else w.measure l place

end Value

end Relvar
