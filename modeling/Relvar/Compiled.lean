/-
Compiled models: the statement that creates the table, the key, the arguments of
the operations and the statement that deletes a row, with the definition that
they were made from. Paired with an instance, the arguments become plans: names
with values, in the order in which a statement takes them.
-/
import Relvar.Arguments
import Relvar.Instance
import Relvar.Key

set_option autoImplicit false

namespace Relvar

/-- A compiled model. -/
structure Compiled where
  model : String
  table : String
  key : Option PrimaryKey
  arguments : Arguments
  delete : String
  definition : Definition
  deriving DecidableEq

/-- What an instance passes to the operation that creates it. -/
structure CreatePlan where
  model : String
  values : List (String × Value)

/-- What an instance passes to the operation that updates it. -/
structure UpdatePlan where
  model : String
  key : String
  keyValue : Value
  values : List (String × Value)

namespace Compiled

/-- The name of the key; it is empty if there is no key. -/
def keyName (c : Compiled) : String := PrimaryKey.nameOf c.key

/-- The name of the key that an operation needs. -/
def requireKey (c : Compiled) (operation : String) : Except Fault String :=
  if c.keyName = "" then .error (.binding ⟨.noKey operation c.model, some (.str c.model), none⟩)
  else .ok c.keyName

/-- The plan of creating an instance. -/
def createPlan (c : Compiled) (row : Value) : Except Fault CreatePlan := do
  let values ← row.readFields (some (.str c.model)) c.arguments.create
  return ⟨c.model, values⟩

/-- The plan of updating an instance. -/
def updatePlan (c : Compiled) (row : Value) : Except Fault UpdatePlan := do
  let key ← c.requireKey "update"
  let values ← row.readFields (some (.str c.model)) c.arguments.update
  let keyValue ← row.readField key (some (.str c.model))
  return ⟨c.model, key, keyValue, values⟩

/-- The value of the key of an instance that is to be deleted. -/
def deleteValue (c : Compiled) (row : Value) : Except Fault Value := do
  let key ← c.requireKey "delete"
  row.readField key (some (.str c.model))

end Compiled

end Relvar
