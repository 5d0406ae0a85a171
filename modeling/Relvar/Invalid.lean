/-
What is wrong with the values that a record is built from: for each offending
part its place in the record and the kind of fault. A record is built from all
its parts or not at all, and every offending part is listed, in the order of the
record's fields.
-/
import Relvar.Value.Display

set_option autoImplicit false

namespace Relvar

/-- A step on the way to a part of a record: a name or a number. -/
inductive Place
  | name (s : String)
  | index (n : Int)

/-- The kinds of faults. -/
inductive FaultKind
  | notText
  | notEncoded
  | tooShort
  | notMapping
  | notRecord
  | notMember
  | tooSmall
  | tooLongText
  | tooShortBytes
  | tooLongBytes
  | notBytes
  | notReal
  | unclearReal
  | notDate
  | unclearDate
  | datePastMidnight
  | notMoment
  | unclearMoment
  | uncountedMoment
  | notTime
  | unclearTime
  | notList
  | notTuple
  | tooFew
  | tooMany
  | notNull
  | notIdentifier
  | unclearIdentifier
  | notDecimal
  | unclearDecimal
  | notComplex
  | unclearComplex
  | unclearBool
  | notBool
  | notInteger
  | unclearInteger
  | tooLong
  | fractional
  | notFinite
  | absent

/-- The name of a kind of fault. -/
def FaultKind.name : FaultKind → String
  | .notText => "string_type"
  | .notEncoded => "string_unicode"
  | .tooShort => "string_too_short"
  | .notMapping => "dict_type"
  | .notRecord => "model_type"
  | .notMember => "enum"
  | .tooSmall => "greater_than_equal"
  | .unclearBool => "bool_parsing"
  | .notBool => "bool_type"
  | .notInteger => "int_type"
  | .unclearInteger => "int_parsing"
  | .tooLong => "int_parsing_size"
  | .fractional => "int_from_float"
  | .notFinite => "finite_number"
  | .absent => "missing"
  | .tooLongText => "string_too_long"
  | .tooShortBytes => "bytes_too_short"
  | .tooLongBytes => "bytes_too_long"
  | .notBytes => "bytes_type"
  | .notReal => "float_type"
  | .unclearReal => "float_parsing"
  | .notDate => "date_type"
  | .unclearDate => "date_from_datetime_parsing"
  | .datePastMidnight => "date_from_datetime_inexact"
  | .notMoment => "datetime_type"
  | .unclearMoment => "datetime_from_date_parsing"
  | .uncountedMoment => "datetime_parsing"
  | .notTime => "time_type"
  | .unclearTime => "time_parsing"
  | .notList => "list_type"
  | .notTuple => "tuple_type"
  | .tooFew => "too_short"
  | .tooMany => "too_long"
  | .notNull => "none_required"
  | .notIdentifier => "uuid_type"
  | .unclearIdentifier => "uuid_parsing"
  | .notDecimal => "decimal_type"
  | .unclearDecimal => "decimal_parsing"
  | .notComplex => "complex_type"
  | .unclearComplex => "complex_str_parsing"

/-- One offending part: its kind of fault and the way to it. -/
structure Offence where
  kind : FaultKind
  place : List Place

/-- The offending parts of a record that was not built. -/
structure Invalid where
  record : String
  offences : List Offence

/-- What is said of a record that was not built. -/
def Invalid.message (e : Invalid) : String :=
  s!"{Decimal.ofNat e.offences.length} validation errors for {e.record}"

/-! ## Checks of single parts -/

/-- The value of a part, or the offences found in it. -/
abbrev Checked (α : Type) := Except (List Offence) α

/-- The offences of a part, if it is offending. -/
def Checked.offences {α : Type} : Checked α → List Offence
  | .error es => es
  | .ok _ => []

/-- What is built without a look at any part. -/
def Checked.start {α : Type} (build : α) : Checked α := .ok build

/-- What is built from a further part. The offences of all parts are kept. -/
def Checked.with {α β : Type} (build : Checked (α → β)) (part : Checked α) : Checked β :=
  match build, part with
  | .ok f, .ok a => .ok (f a)
  | build, part => .error (build.offences ++ part.offences)

end Relvar
