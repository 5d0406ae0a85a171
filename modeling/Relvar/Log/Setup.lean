/-
How a log is shown: from which level on, and in which form. A level is a number
or the name of one, in small or capital letters; a word that names no level
stands for reports. The form for programs is asked for by the caller or by the
environment.
-/
import Relvar.Log.Format
import Relvar.Text.Upper

set_option autoImplicit false

namespace Relvar.Log

/-- How a log is shown. The level is kept as it was given. -/
structure Setup where
  level : Value
  style : LineStyle

namespace Setup

/-- The words for levels. -/
def levelWords : List (String × Level) :=
  [("CRITICAL", 50), ("FATAL", 50), ("ERROR", Level.error), ("WARNING", Level.warning),
    ("WARN", Level.warning), ("INFO", Level.info), ("DEBUG", Level.debug), ("NOTSET", 0)]

/-- A word that names a pattern of lines, which is no level. -/
def patternWord : String := "BASIC_FORMAT"

/-- The pattern that the word names. -/
def patternText : String := "%(levelname)s:%(name)s:%(message)s"

/-- The level that a word names. -/
def levelOfWord (word : String) : Except Fault Value :=
  let word := String.ofList (Text.upper word.toList)
  if word = patternWord then .error (.unknownLevel patternText)
  else match levelWords.find? (·.1 == word) with
    | some (_, level) => .ok (.int level)
    | none => .ok (.int Level.info)

/-- The level that a value names. -/
def levelOf (v : Value) : Except Fault Value :=
  match v with
  | .bool b => .ok (.bool b)
  | v => match v.asText?, v.asInt? with
    | some word, _ => levelOfWord word
    | none, some _ => .ok v
    | none, none => .error (.notLevel v)

/-- The word that asks for the form for programs. -/
def structuredWord : String := "json"

/-- The form that the caller or the environment asks for. -/
def styleOf (structured : Bool) (environmentWord : Option String) : LineStyle :=
  let word := String.ofList (Text.lowerLatin ((environmentWord.getD "").toList))
  if structured || word = structuredWord then .structured else .human

/-- The setup of a level and a form. -/
def of (level : Value) (structured : Bool) (environmentWord : Option String) :
    Except Fault Setup := do
  let level ← levelOf level
  return ⟨level, styleOf structured environmentWord⟩

/-- The least level that is shown. -/
def threshold (s : Setup) : Level :=
  match s.level with
  | .bool b => if b then 1 else 0
  | v => v.asInt?.getD Level.info

/-- Whether records of a level are shown. -/
def shows (s : Setup) (level : Level) : Bool := s.threshold ≤ level

/-- The line that a record is shown as, if it is shown and can be. -/
def line? (s : Setup) (r : Record) : Option String :=
  if s.shows r.level then (r.line s.style).toOption else none

end Setup

end Relvar.Log
