/-
Statements on the rows of a table. A parameter is marked by a question mark and
its number, counted from one, whatever the database expects; the markers are
turned into a database's own style when a statement is sent.
-/
import Relvar.Decimal.Numeral

set_option autoImplicit false

namespace Relvar.Statement

/-- The marker of a parameter. -/
def marker (n : Nat) : String := "?" ++ Decimal.ofNat n

/-- The markers of the first so many parameters. -/
def markers (count : Nat) : List String := (List.range count).map fun i => marker (i + 1)

/-- Names with their markers, numbered from a first number on. -/
def assignments (first : Nat) : List String → List String
  | [] => []
  | name :: names => (name ++ "=" ++ marker first) :: assignments (first + 1) names

/-- The statement that deletes the row of a key. -/
def delete (model key : String) : String := s!"delete from {model} where {key}={marker 1};"

/-- The statement that inserts a row with values for the named columns. -/
def insert (model : String) (names : List String) : String :=
  if names.isEmpty then s!"insert into {model} default values;"
  else
    s!"insert into {model} (" ++ ", ".intercalate names ++ ") values (" ++
      ", ".intercalate (markers names.length) ++ ");"

/-- The statement that sets the named columns of the row of a key. The key's
parameter comes last. -/
def update (model key : String) (names : List String) : String :=
  s!"update {model} set " ++ ", ".intercalate (assignments 1 names) ++
    s!" where {key}={marker (names.length + 1)};"

end Relvar.Statement
