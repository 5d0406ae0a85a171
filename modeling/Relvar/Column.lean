/-
Columns: what the fields of a model become in the statement that creates its
table. A column has a type, says whether it is the key, and may be unique, have
a default, refuse nulls and refer to a column of another table. The key refuses
nulls by itself.
-/
import Relvar.Fault
import Relvar.Field.Basic

set_option autoImplicit false

namespace Relvar

/-! ## Types -/

/-- The types of columns. Dates, moments and booleans are stored as text and as
integers. -/
inductive ColumnType
  | serial
  | integer
  | float
  | text
  | varchar (length : Int)
  deriving DecidableEq

/-- A column type as it stands in a clause. -/
def ColumnType.clause : ColumnType → String
  | .serial => "serial"
  | .integer => "integer"
  | .float => "float"
  | .text => "text"
  | .varchar n => s!"varchar({Decimal.ofInt n})"

/-- The length of a string column that is given none. -/
def defaultStringSize : Int := 255

/-- The length of a string column: the declared one, if there is one that is not
zero. -/
def stringLength (size : Option Int) (defaultSize : Int) : Int :=
  match size with
  | some n => if n = 0 then defaultSize else n
  | none => defaultSize

/-- The column type of a field type. Only a string has a declared length. -/
def FieldType.columnType (size : Option Int) (defaultSize : Int) : FieldType → ColumnType
  | .serial => .serial
  | .integer => .integer
  | .string => .varchar (stringLength size defaultSize)
  | .float => .float
  | .text => .text
  | .date => .varchar 10
  | .boolean => .integer
  | .dateTime => .varchar 40

/-! ## Defaults -/

/-- A text as a literal of a statement: between single quotes, with each quote
inside doubled. -/
def quoteLiteral (s : String) : String :=
  let doubled := s.toList.flatMap fun c =>
    if c = Text.singleQuote then [Text.singleQuote, Text.singleQuote] else [c]
  String.ofList (Text.singleQuote :: doubled ++ [Text.singleQuote])

/-- The default of a column. -/
inductive ColumnDefault
  | number (n : Int)
  | text (s : String)
  | currentDate
  | currentTimestamp
  deriving DecidableEq

/-- A default as it stands in a clause. -/
def ColumnDefault.clause : ColumnDefault → String
  | .number n => "default " ++ Decimal.ofInt n
  | .text s => "default " ++ quoteLiteral s
  | .currentDate => "default current_date"
  | .currentTimestamp => "default current_timestamp"

/-- The default of a column of a field. The present is a default of dates and
moments only. -/
def Field.columnDefault (f : Field) : Except Fault ColumnDefault :=
  match f.default with
  | none => .error .noDefaultText
  | some (.bool b) => .ok (.number (if b then 1 else 0))
  | some (.int n) => .ok (.number n)
  | some (.str s) =>
    if s = nowKeyword then
      match f.type with
      | .date => .ok .currentDate
      | .dateTime => .ok .currentTimestamp
      | t => .error (.declaration ⟨.nowNotTemporal t, none, some (.str f.name)⟩)
    else .ok (.text s)

/-! ## Columns -/

/-- A column. The key, if the column is one, may be counted up by the database. -/
structure Column where
  name : String
  type : ColumnType
  isKey : Bool
  isCounted : Bool
  isUnique : Bool
  default : Option ColumnDefault
  refusesNull : Bool
  reference : Option Reference
  deriving DecidableEq

namespace Column

/-- The parts of a clause, in order. -/
def parts (c : Column) : List String :=
  [c.name, c.type.clause] ++
    (if c.isKey then ["primary key"] else []) ++
    (if c.isCounted then ["autoincrement"] else []) ++
    (if c.isUnique then ["unique"] else []) ++
    (c.default.map ColumnDefault.clause).toList ++
    (if c.refusesNull then ["not null"] else []) ++
    (c.reference.map Reference.clause).toList

/-- The clause of a column. -/
def clause (c : Column) : String := " ".intercalate c.parts

end Column

/-- The column of a field in its role. -/
def Field.column (f : Field) (role : Role) (source : Option KeySource) (defaultSize : Int) :
    Except Fault Column := do
  let default ← if f.hasDefault then some <$> f.columnDefault else pure none
  return {
    name := f.name
    type := f.type.columnType f.size defaultSize
    isKey := role = .primaryKey
    isCounted := role = .primaryKey && source == some .auto
    isUnique := f.isUnique
    default := default
    refusesNull := !f.nullable && role != .primaryKey
    reference := f.reference }

/-- The clause of a field in its role. -/
def Field.clause (f : Field) (role : Role) (source : Option KeySource) (defaultSize : Int) :
    Except Fault String :=
  Column.clause <$> f.column role source defaultSize

/-- The statement that creates a table unless it exists. -/
def createTable (model : String) (clauses : List String) : String :=
  s!"create table if not exists {model} (" ++ ", ".intercalate clauses ++ ");"

end Relvar
