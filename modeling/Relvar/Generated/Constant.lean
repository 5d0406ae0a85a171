/-
Names of constants. The constants of a model share a prefix that is made from
the model's name: words that a capital starts are set apart, all that is no part
of a word becomes a low line, none stands at the ends, and the letters are
capitals. A prefix that would be empty or start with a digit gets a word in
front.
-/
import Relvar.Text.CodeRanges
import Relvar.Text.Upper
import Relvar.Text.Word

set_option autoImplicit false

namespace Relvar.Generated

/-- Whether a character is a small Latin letter or a digit. -/
def endsWord (c : Char) : Bool := c.isLower || c.isDigit

/-- The text with a low line before each capital that follows a small letter or
a digit. -/
def separateWords : List Char → List Char
  | c :: d :: s =>
    if endsWord c && d.isUpper then c :: '_' :: separateWords (d :: s)
    else c :: separateWords (d :: s)
  | s => s

/-- The text with one low line for each stretch of characters that are no part of
a word. -/
def joinWords : List Char → List Char
  | [] => []
  | c :: s =>
    let rest := joinWords s
    if Text.isWord c then c :: rest
    else match s with
      | [] => ['_']
      | d :: _ => if Text.isWord d then '_' :: rest else rest

/-- The text without the low lines at its ends. -/
def stripLines (s : List Char) : List Char :=
  ((s.dropWhile (· = '_')).reverse.dropWhile (· = '_')).reverse

/-- Whether a name cannot stand without a word in front. -/
def needsWord : List Char → Bool
  | [] => true
  | c :: _ => Text.isDigit c

/-- The prefix of the constants of a model. -/
def constantPrefix (model : String) : String :=
  let words := stripLines (joinWords (separateWords model.toList))
  let words := if needsWord words then "MODEL_".toList ++ words else words
  String.ofList (Text.upper words)

/-- The prefixes that occur more than once, each once, in the order of their
characters. -/
def sharedPrefixes (prefixes : List String) : List String :=
  let shared := prefixes.filter fun p => 1 < prefixes.count p
  shared.eraseDups.mergeSort (· ≤ ·)

end Relvar.Generated
