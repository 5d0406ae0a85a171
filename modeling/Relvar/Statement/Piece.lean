/-
The pieces of a statement: markers of parameters and characters between them. A
marker is a question mark with all the digits that follow it, in any script; a
question mark without a digit is a character like any other.
-/
import Relvar.Text.CodeRanges

set_option autoImplicit false

namespace Relvar.Statement

/-- A piece of a statement. -/
inductive Piece
  | plain (c : Char)
  | marker (digits : List Char)
  deriving DecidableEq

namespace Piece

/-- The digits at the front of pieces that are digits. -/
def leadingDigits : List Piece → List Char
  | .plain c :: ps => if Text.isDecimal c then c :: leadingDigits ps else []
  | _ => []

/-- The pieces after a character is put in front of them. -/
def cons (c : Char) (ps : List Piece) : List Piece :=
  let ds := leadingDigits ps
  if c = '?' && !ds.isEmpty then .marker ds :: ps.drop ds.length else .plain c :: ps

/-- The digits of the markers among pieces. -/
def markers : List Piece → List (List Char)
  | [] => []
  | .plain _ :: ps => markers ps
  | .marker ds :: ps => ds :: markers ps

/-- The text of a piece. -/
def text : Piece → List Char
  | .plain c => [c]
  | .marker ds => '?' :: ds

end Piece

/-- The pieces of a statement. -/
def pieces (s : List Char) : List Piece := s.foldr Piece.cons []

end Relvar.Statement
