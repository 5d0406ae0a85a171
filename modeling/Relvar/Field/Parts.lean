/-
Fields built from values, part by part. A flag, a size, a name and the name of a
type may be spelled in any way; a default is a literal and is taken as it is. A
field that is given a default has one, unless it is said that it has none.
-/
import Relvar.Field.Basic

set_option autoImplicit false

namespace Relvar

/-! ## Single parts -/

namespace Value

/-- A truth value. -/
def checkBool (part : String) (v : Value) : Checked Bool :=
  v.spelledBool.mapError fun kind => [⟨kind, [.name part]⟩]

/-- A size: nothing, or an integer from one on. -/
def checkSize (part : String) (v : Value) : Checked (Option Int) :=
  match v with
  | null => .ok none
  | v => match v.spelledInt with
    | .ok n => if n < 1 then .error [⟨.tooSmall, [.name part]⟩] else .ok (some n)
    | .error kind => .error [⟨kind, [.name part]⟩]

/-- A field type or the name of one. -/
def checkFieldType (part : String) (v : Value) : Checked FieldType :=
  match v.spelledText.toOption.bind FieldType.ofName? with
  | some t => .ok t
  | none => .error [⟨.notMember, [.name part]⟩]

/-- A default: nothing, or a literal of one of three classes. -/
def checkDefault (part : String) (v : Value) : Checked (Option Literal) :=
  match v with
  | null => .ok none
  | v => match Literal.ofValue? v with
    | some l => .ok (some l)
    | none => .error [⟨.notBool, [.name part, .name "bool"]⟩,
        ⟨.notInteger, [.name part, .name "int"]⟩, ⟨.notText, [.name part, .name "str"]⟩]

end Value

/-! ## Fields -/

/-- The parts that a field is built from. All but the name and the type may be
left out. -/
structure FieldParts where
  name : Value
  type : Value
  nullable : Option Value
  isPrimaryKey : Option Value
  isAuto : Option Value
  isUnique : Option Value
  hasDefault : Option Value
  default : Option Value
  size : Option Value
  reference : Option Reference

namespace FieldParts

/-- A flag that is false if it is left out. -/
def flag (part : String) (v : Option Value) : Checked Bool := (v.getD (.bool false)).checkBool part

/-- The field of the parts. -/
def build (p : FieldParts) : Except Invalid Field :=
  let hasDefault := p.hasDefault.getD (.bool p.default.isSome)
  let checked := Checked.start Field.mk
    |>.with (p.name.checkName [.name "name"])
    |>.with (p.type.checkFieldType "semantic_type")
    |>.with (flag "nullable" p.nullable)
    |>.with (flag "is_primary_key" p.isPrimaryKey)
    |>.with (flag "is_auto" p.isAuto)
    |>.with (flag "is_unique" p.isUnique)
    |>.with (hasDefault.checkBool "has_default")
    |>.with ((p.default.getD .null).checkDefault "default_value")
    |>.with ((p.size.getD .null).checkSize "size")
    |>.with (.ok p.reference)
  checked.mapError (Invalid.mk "FieldDescriptor")

end FieldParts

end Relvar
