/-
Instances of models, and what is read from them. An instance is a mapping from
names to values or a value with attributes. A field that an instance has no
value for is an error; a null counts as a value.
-/
import Relvar.Fault
import Relvar.Value.Dict

set_option autoImplicit false

namespace Relvar

namespace Value

/-- The attributes of a declared field. -/
def fieldAttributes (f : FieldDecl) : List (String × Value) :=
  [("name", .str f.name), ("declared_type", f.type),
    ("modifiers", .dict (Dict.ofStrings f.modifiers))]

/-- The numbers of a date. -/
def dateAttributes (d : Date) : List (String × Value) :=
  [("year", .int d.year), ("month", .int d.month), ("day", .int d.day)]

/-- The numbers of a moment. -/
def momentAttributes (t : Moment) : List (String × Value) :=
  dateAttributes t.date ++
    [("hour", .int t.hour), ("minute", .int t.minute), ("second", .int t.second),
      ("microsecond", .int t.microsecond), ("fold", .int 0)] ++
    (if t.offset.isNone then [("tzinfo", .null)] else [])

/-- The parts of a number that is complex, of which the second is nothing. -/
def complexAttributes (x : Value) (nothing : Value) : List (String × Value) :=
  [("real", x), ("imag", nothing)]

/-- The parts of an integer as a complex number and as a fraction. -/
def wholeAttributes (n : Int) : List (String × Value) :=
  complexAttributes (.int n) (.int 0) ++ [("numerator", .int n), ("denominator", .int 1)]

/-- The parts of a value that is an integer. -/
def integerAttributes (v : Value) : List (String × Value) :=
  (v.asInt?.map wholeAttributes).getD []

/-- The label and the value of a member, under their open and their inner names. -/
def memberAttributes (label : String) (v : Value) : List (String × Value) :=
  [("name", .str label), ("value", v), ("_name_", .str label), ("_value_", v)]

/-- The attributes of a value that hold data. -/
def attributes : Value → List (String × Value)
  | bool b => wholeAttributes (if b then 1 else 0)
  | int n => wholeAttributes n
  | real x => complexAttributes (.real x) (.real (.ofRatio false 0 1))
  | record as => as
  | object _ as => as
  | field f => fieldAttributes f
  | model m => [("name", m.name), ("fields", .tuple (m.fields.map field))]
  | date d => dateAttributes d
  | moment t => momentAttributes t
  | member e base v => memberAttributes "MEMBER" v ++ integerAttributes (.member e base v)
  | semantic t => memberAttributes t.label (.str t.name)
  | registry ms => [("names", .tuple (ms.map (·.name)))]
  | _ => []

/-- The value of an attribute. -/
def attribute? (v : Value) (name : String) : Option Value :=
  (v.attributes.find? (·.1 == name)).map (·.2)

/-- The value that an instance has for a field, if it has one. -/
def fieldValue? (v : Value) (name : String) : Option Value :=
  match v with
  | dict es => Dict.find? es (.str name)
  | v => v.attribute? name

/-- The value that an instance has for a field of a model. -/
def readField (v : Value) (name : String) (model : Option Value) : Except Fault Value :=
  match v.fieldValue? name with
  | some x => .ok x
  | none => .error (.binding ⟨.noValue name, model, some (.str name)⟩)

/-- Names with the values that an instance has for them. -/
def readFields (v : Value) (model : Option Value) :
    List String → Except Fault (List (String × Value))
  | [] => .ok []
  | name :: names => do
    let x ← v.readField name model
    let rest ← v.readFields model names
    return (name, x) :: rest

end Value

end Relvar
