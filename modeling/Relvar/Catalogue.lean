/-
Catalogues of modules from which registries are loaded. A target names a module
and an item in it, with a colon between them. The item is a registry, or a list
or tuple of models. A module inside another is found only under its full name,
because no module of a catalogue has modules inside.
-/
import Relvar.Registry

set_option autoImplicit false

namespace Relvar

/-- A module: its name and its named items. -/
structure CatalogueModule where
  name : String
  items : List (String × Value)

/-- The modules that can be loaded. -/
abbrev Catalogue := List CatalogueModule

namespace CatalogueModule

/-- The items that every module has. -/
def implicitItems (m : CatalogueModule) : List (String × Value) :=
  [("__name__", .str m.name), ("__doc__", .null), ("__loader__", .null), ("__package__", .null),
    ("__spec__", .null), ("__dict__", .dict (Dict.ofStrings m.items)),
    ("__class__", .type (.named .object))]

/-- The item of a name. Of equal names the last counts. -/
def item? (m : CatalogueModule) (name : String) : Option Value :=
  ((m.implicitItems ++ m.items).reverse.find? (·.1 == name)).map (·.2)

end CatalogueModule

namespace Catalogue

/-- The name of the module that a module would be inside, if any. -/
def parentName? (name : List Char) : Option (List Char) :=
  match name.reverse.dropWhile (· != '.') with
  | [] => none
  | _ :: rest => some rest.reverse

/-- Why a module that is not in a catalogue is not found. The modules around it
are looked for first; the fuel is at least their number. -/
def absence (c : Catalogue) : Nat → List Char → Fault
  | 0, name => .noModule (String.ofList name)
  | fuel + 1, name =>
    match parentName? name with
    | none => .noModule (String.ofList name)
    | some parent =>
      if parent.isEmpty then .noModule (String.ofList name)
      else if c.any (·.name == String.ofList parent) then
        .notPackage (String.ofList name) (String.ofList parent)
      else absence c fuel parent

/-- The module of a name. -/
def find (c : Catalogue) (name : String) : Except Fault CatalogueModule :=
  if name.toList.head? = some '.' then .error (.relativeModule name)
  else match c.find? (·.name == name) with
    | some m => .ok m
    | none => .error (c.absence name.length name.toList)

/-- The module and the item that a target names. -/
def splitTarget (target : String) : Except Fault (String × String) :=
  let s := target.toList
  let name := s.takeWhile (· != ':')
  let item := s.drop (name.length + 1)
  if name.isEmpty || item.isEmpty then .error (.badTarget target)
  else .ok (String.ofList name, String.ofList item)

/-- The item that a target names. -/
def item (c : Catalogue) (target : String) : Except Fault Value := do
  let (name, item) ← splitTarget target
  let m ← c.find name
  match m.item? item with
  | some v => .ok v
  | none => .error (.noSuchItem name item)

/-- The registry that a target names. -/
def load (c : Catalogue) (target : String) : Run Registry := do
  match ← Run.ofExcept (c.item target) with
  | .registry ms => return ms
  | .list xs => Registry.ofValue (.list xs)
  | .tuple xs => Registry.ofValue (.tuple xs)
  | v => throw (.notModels target v.kind)

end Catalogue

end Relvar
