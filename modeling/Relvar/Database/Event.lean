/-
What a database is asked to do, in order, and how it answers. A script holds the
answers: whether connecting and committing fail, and one outcome for each
statement; when the outcomes are used up every statement succeeds on one row.
-/
import Relvar.Fault

set_option autoImplicit false

namespace Relvar.Database

/-- The parameters sent along with a statement. -/
inductive SentParameters
  | left
  | absent
  | given (values : List Value)

/-- Something that a database is asked to do. A provider may be entered and left
around a connection that is its own. -/
inductive Event
  | enter
  | leave
  | connect (address : String) (timeout : Int)
  | openCursor
  | execute (statement : String) (parameters : SentParameters)
  | fetchRow
  | closeCursor
  | commit
  | rollback
  | close
  | probe (statement : String)

/-- How a statement ends: with an error, or on some rows of which the first may
be fetched. -/
structure Outcome where
  error : Option Fault
  rows : Int
  row : Value

/-- The outcome of a statement that succeeds on one row. -/
def Outcome.success : Outcome := ⟨none, 1, .null⟩

/-- The answers of a database. -/
structure Script where
  connectError : Option Fault
  commitError : Option Fault
  outcomes : List Outcome

/-- The answers of a database that never fails. -/
def Script.smooth : Script := ⟨none, none, []⟩

end Relvar.Database
