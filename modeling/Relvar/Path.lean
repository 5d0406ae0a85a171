/-
Paths of files. The parts of a path stand between slashes; an empty part and a
single point say nothing. Two points lead one level up, which only walking the
path resolves. A path that ends where it started, or one level up, is a
directory.
-/
set_option autoImplicit false

namespace Relvar

/-- A path: what it starts with, which is empty unless it is absolute, and its
parts. -/
structure Path where
  root : String
  parts : List String
  deriving DecidableEq

namespace Path

/-- The parts of a text between slashes. -/
def pieces : List Char → List (List Char)
  | [] => [[]]
  | c :: s =>
    if c = '/' then [] :: pieces s
    else match pieces s with
      | p :: ps => (c :: p) :: ps
      | [] => [[c]]

/-- What an absolute path starts with: exactly two slashes are kept. -/
def rootOf : List Char → String
  | '/' :: '/' :: '/' :: _ => "/"
  | '/' :: '/' :: _ => "//"
  | '/' :: _ => "/"
  | _ => ""

/-- The path that a text stands for. -/
def ofText (text : String) : Path :=
  let parts := (pieces text.toList).map String.ofList
  ⟨rootOf text.toList, parts.filter fun p => p != "" && p != "."⟩

/-- A path as text. -/
def text (p : Path) : String :=
  if p.root = "" && p.parts.isEmpty then "." else p.root ++ "/".intercalate p.parts

/-- Whether a path is a directory, as far as it tells. -/
def isDirectory (p : Path) : Bool :=
  match p.parts.getLast? with
  | none => true
  | some last => last = ".."

/-- The parts that are left after walking, from a directory some parts down;
nothing if the walk leaves the directory that it started in. -/
def walk (down : List String) : List String → Option (List String)
  | [] => some down.reverse
  | ".." :: rest => match down with
    | [] => none
    | _ :: up => walk up rest
  | part :: rest => walk (part :: down) rest

/-- The place of a path in the directory that a run starts in, if it is there. -/
def place? (p : Path) : Option String :=
  if p.root = "" then (walk [] p.parts).map ("/".intercalate ·) else none

end Path

end Relvar
