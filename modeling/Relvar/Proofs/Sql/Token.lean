/-
A reader of statements, as a database reads them: characters first, then tokens. It
knows nothing of how statements are written. A token is a word of ASCII letters,
digits and low lines, a text between quotes in which a quote is written twice, the
marker of a parameter, or a sign. The markers are those of a style; without a style
they are question marks with numbers.
-/
import Relvar.FieldType
import Relvar.Text.Quoted

set_option autoImplicit false

namespace Relvar.Sql

open Relvar.Text (singleQuote)

/-! ## Words -/

/-- Whether a character is part of a word: an ASCII letter or digit, or the low line. -/
def isWordChar (c : Char) : Bool := c.isAlphanum || c = '_'

/-- A word is made of word characters, and is not empty. -/
def IsWord (s : String) : Prop := s ≠ "" ∧ ∀ c ∈ s.toList, isWordChar c = true

-- the characters of the word are tried, not all characters there are
instance (s : String) : Decidable (IsWord s) :=
  @instDecidableAnd _ _ _ (List.decidableBAll _ s.toList)

/-! ## Tokens -/

/-- A token. The marker of a parameter may have a number of its own. -/
inductive Token
  | word (s : String)
  | text (s : String)
  | marker (number : Option Nat)
  | sign (c : Char)
  deriving DecidableEq

/-- What the scanner is in the middle of: nothing, a word, a text, a text of which
there was a quote, a marker after a percent sign, or a marker with a number. What
was read of it so far is kept. -/
inductive Mode
  | gap
  | word (read : List Char)
  | quoted (read : List Char)
  | closing (read : List Char)
  | percent
  | number (read : List Char)
  deriving DecidableEq

namespace Scanner

variable (style : Option BindStyle)

/-- What a character opens. -/
def opens (c : Char) : List Token × Mode :=
  if c = ' ' then ([], .gap)
  else if c = singleQuote then ([], .quoted [])
  else if isWordChar c then ([], .word [c])
  else match style, c with
    | none, '?' => ([], .number [])
    | some .qmark, '?' => ([.marker none], .gap)
    | some .format, '%' => ([], .percent)
    | some .numeric, ':' => ([], .number [])
    | some .dollar, '$' => ([], .number [])
    | _, c => ([.sign c], .gap)

/-- The number that digits stand for. -/
def valueOf (digits : List Char) : Nat := Nat.ofDigitChars 10 digits 0

/-- What is read when what the scanner is in the middle of ends. -/
def close : Mode → Option (List Token)
  | .gap => some []
  | .word w => some [.word (String.ofList w)]
  | .quoted _ => none
  | .closing t => some [.text (String.ofList t)]
  | .percent => none
  | .number ds => if ds = [] then none else some [.marker (some (valueOf ds))]

/-- Whether a character continues what the scanner is in the middle of, and how. -/
def continues : Mode → Char → Option (List Token × Mode)
  | .word w, c => if isWordChar c then some ([], .word (w ++ [c])) else none
  | .quoted t, c => some ([], if c = singleQuote then .closing t else .quoted (t ++ [c]))
  | .closing t, c => if c = singleQuote then some ([], .quoted (t ++ [c])) else none
  | .percent, 's' => some ([.marker none], .gap)
  | .percent, '%' => some ([.sign '%'], .gap)
  | .number ds, c => if c.isDigit then some ([], .number (ds ++ [c])) else none
  | _, _ => none

/-- What a character does: it continues what is there, or ends it and opens something. -/
def step (m : Mode) (c : Char) : Option (List Token × Mode) :=
  (continues m c).or <| (close m).map fun ts => (ts ++ (opens style c).1, (opens style c).2)

/-- The tokens of a text, from the middle of something on. -/
def scan (m : Mode) : List Char → Option (List Token)
  | [] => close m
  | c :: s => (step style m c).bind fun (ts, next) => (scan next s).map (ts ++ ·)

end Scanner

/-- The tokens of a statement. -/
def tokens (style : Option BindStyle) (statement : String) : Option (List Token) :=
  Scanner.scan style .gap statement.toList

example : tokens none "note text default 'it''s, not null'" =
    some [.word "note", .word "text", .word "default", .text "it's, not null"] := by decide

example : tokens (some .dollar) "id=$12;" =
    some [.word "id", .sign '=', .marker (some 12), .sign ';'] := by decide

/-! ## Enumerations -/

/-- The items of an enumeration, with commas between them, and what follows the last
one. There is at least one item, and there are as many as a bound at most. -/
def enumeration {α : Type} (item : List Token → Option (α × List Token)) :
    Nat → List Token → Option (List α × List Token)
  | 0, _ => none
  | n + 1, ts => do
    let (a, ts) ← item ts
    match ts with
    | .sign ',' :: ts => (enumeration item n ts).map fun (as, ts) => (a :: as, ts)
    | ts => some ([a], ts)

/-- There are as many tokens in rows as there are rows, if no row is empty. -/
theorem length_le_intercalate {sep : List Token} {rows : List (List Token)}
    (h : ∀ ts ∈ rows, ts ≠ []) : rows.length ≤ (sep.intercalate rows).length := by
  induction rows with
  | nil => simp
  | cons ts rows ih =>
    obtain ⟨hts, hrows⟩ := List.forall_mem_cons.mp h
    have hpos := List.length_pos_iff.mpr hts
    have hlen := ih hrows
    cases rows with
    | nil => simpa using Nat.succ_le_of_lt hpos
    | cons us rows =>
      simp only [List.intercalate_cons_cons, List.length_append, List.length_cons] at hlen ⊢
      omega

/-- An enumeration is read if each of its items is: `P` is what an item needs of what
follows it, and a comma is always enough. -/
theorem enumeration_intercalate {α : Type} {item : List Token → Option (α × List Token)}
    {spell : α → List Token} {P : List Token → Prop} {as : List α} {rest : List Token} {n : Nat}
    (hne : as ≠ []) (hn : as.length ≤ n) (hcomma : ∀ ts, P (.sign ',' :: ts))
    (hitem : ∀ a ∈ as, ∀ ts, P ts → item (spell a ++ ts) = some (a, ts)) (hP : P rest)
    (hrest : ∀ ts, rest ≠ .sign ',' :: ts) :
    enumeration item n ([.sign ','].intercalate (as.map spell) ++ rest) = some (as, rest) := by
  induction as generalizing n with
  | nil => exact absurd rfl hne
  | cons a as ih =>
    obtain ⟨n, rfl⟩ := Nat.exists_eq_add_of_le' (Nat.le_trans (Nat.le_add_left 1 _) hn)
    obtain ⟨ha, has⟩ := List.forall_mem_cons.mp hitem
    cases as with
    | nil =>
      rw [List.map_singleton, List.intercalate_singleton, enumeration, ha rest hP]
      simp only [bind, Option.bind]
    | cons b as =>
      have hnext := ih (by simp) (Nat.le_of_succ_le_succ hn) has
      rw [List.map_cons, List.map_cons, List.intercalate_cons_cons, ← List.map_cons,
        List.append_assoc, List.append_assoc, enumeration, List.singleton_append,
        ha _ (hcomma _)]
      simp only [bind, Option.bind, hnext]
      rfl

/-- The items of an enumeration, of which there are no more than tokens. -/
def items {α : Type} (item : List Token → Option (α × List Token)) (ts : List Token) :
    Option (List α × List Token) :=
  enumeration item ts.length ts

theorem items_intercalate {α : Type} (item : List Token → Option (α × List Token))
    (spell : α → List Token) (P : List Token → Prop) {as : List α} {rest : List Token}
    (hne : as ≠ []) (hspell : ∀ a ∈ as, spell a ≠ []) (hcomma : ∀ ts, P (.sign ',' :: ts))
    (hitem : ∀ a ∈ as, ∀ ts, P ts → item (spell a ++ ts) = some (a, ts)) (hP : P rest)
    (hrest : ∀ ts, rest ≠ .sign ',' :: ts) :
    items item ([.sign ','].intercalate (as.map spell) ++ rest) = some (as, rest) := by
  refine enumeration_intercalate hne ?_ hcomma hitem hP hrest
  have hlen : (as.map spell).length ≤ ([Token.sign ','].intercalate (as.map spell)).length :=
    length_le_intercalate (by simpa using hspell)
  rw [List.length_map] at hlen
  rw [List.length_append]
  omega

end Relvar.Sql
