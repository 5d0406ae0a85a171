/-
Source as it is written: lexemes one after the other on lines. Between two lexemes the scanner
is between two tokens, so a row is read lexeme by lexeme; a name or an empty text is over only
with the character behind it, which must not go on with it. At the end of a line the scanner
starts anew, so lines are read line by line.
-/
import Relvar.Proofs.Source.Reader
import Mathlib.Tactic.SplitIfs

set_option autoImplicit false

namespace Relvar.Source

namespace Scanner

open Relvar.Text (singleQuote doubleQuote)

/-- The tokens in front of those of the rest. -/
def before (ts : List Token) (rest : Move) : Move := rest.map fun r => (ts ++ r.1, r.2)

@[simp] theorem before_nil (rest : Move) : before [] rest = rest := by
  cases rest <;> simp [before]

theorem before_before (ts us : List Token) (rest : Move) :
    before ts (before us rest) = before (ts ++ us) rest := by
  cases rest <;> simp [before]

theorem advance_cons {m next : Mode} {c : Char} {ts : List Token} (s : List Char)
    (h : step m c = some (ts, next)) : advance m (c :: s) = before ts (advance next s) := by
  rw [advance, h]
  cases hrest : advance next s <;> simp [before, hrest]

/-- A character that completes no token. -/
theorem advance_silent {m next : Mode} {c : Char} (s : List Char)
    (h : step m c = some ([], next)) : advance m (c :: s) = advance next s := by
  rw [advance_cons s h, before_nil]

theorem advance_append {m next : Mode} {s : List Char} {ts : List Token} (t : List Char)
    (h : advance m s = some (ts, next)) : advance m (s ++ t) = before ts (advance next t) := by
  induction s generalizing m ts with
  | nil =>
    obtain ⟨rfl, rfl⟩ := Prod.mk.inj (Option.some.inj h)
    exact (before_nil _).symm
  | cons c s ih =>
    obtain ⟨⟨us, mid⟩, hc, h⟩ := Option.bind_eq_some_iff.mp h
    obtain ⟨⟨vs, last⟩, hs, h⟩ := Option.bind_eq_some_iff.mp h
    obtain ⟨rfl, rfl⟩ := Prod.mk.inj (Option.some.inj h)
    rw [List.cons_append, advance_cons _ hc, ih hs, before_before]

/-! ## Escapes -/

theorem hexDigit?_digitChar {d : Nat} (h : d < 16) : hexDigit? d.digitChar = some d := by
  have hall : ∀ d < 16, hexDigit? d.digitChar = some d := by decide
  exact hall d h

/-- The value of hexadecimal digits behind others. -/
def digitsValue (value : Nat) (ds : List Nat) : Nat := ds.foldl (fun v d => v * 16 + d) value

/-- The digits of a code point are read to the last one. -/
theorem advance_digits (q : Quote) (read : List Char) {ds : List Nat} (hne : ds ≠ [])
    (hds : ∀ d ∈ ds, d < 16) (value : Nat) (rest : List Char)
    (hvalid : (digitsValue value ds).isValidChar) :
    advance (.code q read ds.length value) (ds.map Nat.digitChar ++ rest) =
      advance (.text q (read ++ [Char.ofNat (digitsValue value ds)])) rest := by
  induction ds generalizing value with
  | nil => exact absurd rfl hne
  | cons d ds ih =>
    obtain ⟨hd, hds⟩ := List.forall_mem_cons.mp hds
    have hdigit := hexDigit?_digitChar hd
    rw [List.map_cons, List.cons_append]
    -- only the last digit ends the escape, so the last step is another one
    by_cases hlast : ds = []
    · subst hlast
      have hstep : step (.code q read 1 value) d.digitChar =
          some ([], .text q (read ++ [Char.ofNat (value * 16 + d)])) := by
        have hchar : (value * 16 + d).isValidChar := hvalid
        simp [step, inCode, hdigit, hchar]
      exact advance_silent _ hstep
    · have hpos : 1 < ds.length + 1 := by
        have hlength := List.length_pos_iff.mpr hlast
        omega
      have hstep : step (.code q read (ds.length + 1) value) d.digitChar =
          some ([], .code q read ds.length (value * 16 + d)) := by
        simp [step, inCode, hdigit, hpos]
      rw [List.length_cons, advance_silent _ hstep, ih hlast hds _ hvalid]
      rfl

/-- One more digit shows the remainder behind the digits of the quotient. -/
theorem hexPadded_succ {width : Nat} (hwidth : 0 < width) (n : Nat) :
    Text.hexPadded (width + 1) n = Text.hexPadded width (n / 16) ++ [(n % 16).digitChar] := by
  rw [Text.hexPadded, Text.hexPadded]
  by_cases hsmall : n < 16
  · have hzero : n / 16 = 0 := by omega
    have hmod : n % 16 = n := Nat.mod_eq_of_lt hsmall
    obtain ⟨k, rfl⟩ := Nat.exists_eq_succ_of_ne_zero (Nat.pos_iff_ne_zero.mp hwidth)
    rw [hzero, hmod, Nat.toDigits_of_lt_base hsmall, Nat.toDigits_zero]
    simp [List.replicate_succ']
  · have hle : 16 ≤ n := Nat.not_lt.mp hsmall
    rw [Nat.toDigits_of_base_le (by decide) hle]
    simp

/-- A number that fits is written in as many digits as there is space for, and they stand for
it. -/
theorem hexPadded_digits {width n : Nat} (hwidth : 0 < width) (hn : n < Nat.pow 16 width) :
    ∃ ds : List Nat, ds.length = width ∧ (∀ d ∈ ds, d < 16) ∧ digitsValue 0 ds = n ∧
      Text.hexPadded width n = ds.map Nat.digitChar := by
  induction width generalizing n with
  | zero => exact absurd hwidth (Nat.lt_irrefl 0)
  | succ width ih =>
    -- a number is written as its quotient and its last digit, if there is space for two
    by_cases hone : width = 0
    · subst hone
      have hn : n < 16 := by simpa using hn
      refine ⟨[n], rfl, by simpa using hn, by simp [digitsValue], ?_⟩
      rw [Text.hexPadded, Nat.toDigits_of_lt_base hn]
      rfl
    · have hwidth : 0 < width := Nat.pos_of_ne_zero hone
      have hquot : n / 16 < Nat.pow 16 width := by
        have hpow : Nat.pow 16 (width + 1) = Nat.pow 16 width * 16 := rfl
        omega
      obtain ⟨ds, hlen, hds, hvalue, hpadded⟩ := ih hwidth hquot
      refine ⟨ds ++ [n % 16], by simp [hlen], fun d hd => ?_, ?_, ?_⟩
      · rcases List.mem_append.mp hd with hd | hd
        · exact hds d hd
        · rw [List.mem_singleton.mp hd]
          exact Nat.mod_lt n (by decide)
      · have hquotient : ds.foldl (fun v d => v * 16 + d) 0 = n / 16 := hvalue
        rw [digitsValue, List.foldl_append, hquotient, List.foldl_cons, List.foldl_nil]
        omega
      · rw [hexPadded_succ hwidth, hpadded, List.map_append, List.map_singleton]

/-- The text between quotes that stands on one line. -/
abbrev short (mark : Char) : Quote := ⟨mark, false⟩

/-- A code point behind a backslash. -/
theorem advance_escape (q : Quote) (read : List Char) {letter : Char} {width : Nat} (c : Char)
    (rest : List Char) (hletter : codeLength? letter = some width) (hwidth : 0 < width)
    (hc : c.toNat < Nat.pow 16 width) :
    advance (.text q read) ('\\' :: letter :: Text.hexPadded width c.toNat ++ rest) =
      advance (.text q (read ++ [c])) rest := by
  obtain ⟨ds, rfl, hds, hvalue, hpadded⟩ := hexPadded_digits hwidth hc
  have hopen : step (.text q read) '\\' = some ([], .escape q read) := by simp [step, inText]
  have hkind : step (.escape q read) letter = some ([], .code q read ds.length 0) := by
    simp [step, hletter]
  have hne : ds ≠ [] := List.ne_nil_of_length_pos hwidth
  have hvalid : (digitsValue 0 ds).isValidChar := by
    rw [hvalue]
    exact c.valid
  rw [hpadded, List.cons_append, List.cons_append, advance_silent _ hopen, advance_silent _ hkind,
    advance_digits q read hne hds 0 rest hvalid, hvalue, Char.ofNat_toNat]

/-- A backslash in front of a character that has a meaning there. -/
theorem advance_escaped (q : Quote) (read : List Char) {letter c : Char} (rest : List Char)
    (hcode : codeLength? letter = none) (hletter : escaped? letter = some [c]) :
    advance (.text q read) ('\\' :: letter :: rest) = advance (.text q (read ++ [c])) rest := by
  have hopen : step (.text q read) '\\' = some ([], .escape q read) := by simp [step, inText]
  have hstep : step (.escape q read) letter = some ([], .text q (read ++ [c])) := by
    simp [step, hcode, hletter]
  rw [advance_silent _ hopen, advance_silent _ hstep]

theorem eq_of_isQuote {mark : Char} (h : isQuote mark = true) :
    mark = singleQuote ∨ mark = doubleQuote := by
  simpa [isQuote] using h

theorem ne_backslash_of_isQuote {mark : Char} (h : isQuote mark = true) : mark ≠ '\\' := by
  rcases eq_of_isQuote h with rfl | rfl
  · decide
  · decide

theorem ne_nul_of_isPrintable {c : Char} (h : Text.isPrintable c = true) : c ≠ '\x00' := by
  rintro rfl
  exact absurd h (by decide)

/-- Whatever a character is, it is read as itself where it is written between quotes. -/
theorem advance_quotedChar {mark : Char} (hmark : isQuote mark = true) (read : List Char)
    (c : Char) (rest : List Char) :
    advance (.text (short mark) read) (Text.quotedChar mark c ++ rest) =
      advance (.text (short mark) (read ++ [c])) rest := by
  unfold Text.quotedChar
  split_ifs with hself hfeed hreturn htab hprint
  · -- the quote and the backslash stand behind a backslash
    rcases (show c = mark ∨ c = '\\' by simpa using hself) with rfl | rfl
    · rcases eq_of_isQuote hmark with rfl | rfl
      · exact advance_escaped _ _ _ rfl rfl
      · exact advance_escaped _ _ _ rfl rfl
    · exact advance_escaped _ _ _ rfl rfl
  · exact hfeed ▸ advance_escaped _ _ _ rfl rfl
  · exact hreturn ▸ advance_escaped _ _ _ rfl rfl
  · exact htab ▸ advance_escaped _ _ _ rfl rfl
  · have hself : c ≠ mark ∧ c ≠ '\\' := by simpa using hself
    have hstep : step (.text (short mark) read) c =
        some ([], .text (short mark) (read ++ [c])) := by
      simp [step, inText, hself, isForeign, hreturn, hfeed, ne_nul_of_isPrintable hprint]
    exact advance_silent _ hstep
  · -- the number of digits leaves space for the code point
    have hmax : c.toNat < Nat.pow 16 8 := by
      have hlt : c.toNat < UInt32.size := c.val.toNat_lt
      exact hlt
    unfold Text.codeEscape
    split_ifs with htwo hfour
    · exact advance_escape _ _ _ _ rfl (by decide) htwo
    · exact advance_escape _ _ _ _ rfl (by decide) hfour
    · exact advance_escape _ _ _ _ rfl (by decide) hmax

/-- The inside of a text is read character by character. -/
theorem advance_quotedChars {mark : Char} (hmark : isQuote mark = true) (read s rest : List Char) :
    advance (.text (short mark) read) (s.flatMap (Text.quotedChar mark) ++ rest) =
      advance (.text (short mark) (read ++ s)) rest := by
  induction s generalizing read with
  | nil => rw [List.flatMap_nil, List.nil_append, List.append_nil]
  | cons c s ih =>
    have hread : read ++ c :: s = read ++ [c] ++ s := by simp
    rw [List.flatMap_cons, List.append_assoc, advance_quotedChar hmark, ih, hread]

/-- What is written of a character does not start with the quote around it. -/
theorem quotedChar_cons {mark : Char} (hmark : mark ≠ '\\') (c : Char) :
    ∃ d s, Text.quotedChar mark c = d :: s ∧ d ≠ mark := by
  have hescaped (s : List Char) : ∃ d t, '\\' :: s = d :: t ∧ d ≠ mark :=
    ⟨'\\', s, rfl, hmark.symm⟩
  unfold Text.quotedChar
  split_ifs with hself
  · exact hescaped [c]
  · exact hescaped ['n']
  · exact hescaped ['r']
  · exact hescaped ['t']
  · have hne : c ≠ mark ∧ c ≠ '\\' := by simpa using hself
    exact ⟨c, [], rfl, hne.1⟩
  · unfold Text.codeEscape
    split_ifs
    · exact hescaped _
    · exact hescaped _
    · exact hescaped _

/-! ## Names and texts -/

/-- Characters that go on with no token. -/
def endings : List Char := ' ' :: '\n' :: signs

theorem not_goes_on {c : Char} (h : c ∈ endings) : isNameChar c = false ∧ isQuote c = false := by
  have hall : endings.all fun c => !isNameChar c && !isQuote c := by decide
  simpa using List.all_eq_true.mp hall c h

/-- A text that starts with a character that ends whatever is in front of it. -/
def Ends (s : List Char) : Prop := ∃ c t, s = c :: t ∧ c ∈ endings

/-- A token that is over only with the character behind it. -/
theorem advance_behind {m : Mode} {t : Token} {rest : List Char} (hrest : Ends rest)
    (h : ∀ c ∈ endings, step m c = opensBehind t c) :
    advance m rest = before [t] (advance .gap rest) := by
  obtain ⟨c, s, rfl, hc⟩ := hrest
  have hstep := h c hc
  -- the character behind the token is read twice: it ends the one and may open the next
  cases hopens : opens c with
  | none =>
    have hgap : step .gap c = none := hopens
    rw [advance, advance, hstep, hgap, opensBehind, hopens]
    rfl
  | some move =>
    have hgap : step .gap c = some (move.1, move.2) := hopens
    rw [opensBehind, hopens] at hstep
    rw [advance_cons s hgap, advance_cons s hstep, before_before]
    rfl

theorem advance_name (w v rest : List Char) (hv : ∀ c ∈ v, isNameChar c = true) :
    advance (.name w) (v ++ rest) = advance (.name (w ++ v)) rest := by
  induction v generalizing w with
  | nil => rw [List.nil_append, List.append_nil]
  | cons c v ih =>
    obtain ⟨hc, hv⟩ := List.forall_mem_cons.mp hv
    have hstep : step (.name w) c = some ([], .name (w ++ [c])) := if_pos hc
    have hread : w ++ c :: v = w ++ [c] ++ v := by simp
    rw [List.cons_append, advance_silent _ hstep, ih _ hv, hread]

/-- A name is over at a character that ends it. -/
theorem advance_named {w rest : List Char} (hrest : Ends rest) :
    advance (.name w) rest = before [.name (String.ofList w)] (advance .gap rest) := by
  refine advance_behind hrest fun c hc => ?_
  obtain ⟨hname, hquote⟩ := not_goes_on hc
  simp [step, hname, hquote]

/-- A text between quotes is read back, whatever is in it. -/
theorem advance_quoted {mark : Char} (hmark : isQuote mark = true) (s : String) {rest : List Char}
    (hrest : Ends rest) :
    advance .gap (mark :: s.toList.flatMap (Text.quotedChar mark) ++ mark :: rest) =
      before [.text s] (advance .gap rest) := by
  have hopens : step .gap mark = some ([], .opened mark) := by
    rcases eq_of_isQuote hmark with rfl | rfl <;> rfl
  rw [List.cons_append, advance_silent _ hopens]
  rcases hs : s.toList with _ | ⟨c, v⟩
  · -- two quotes may be the first of three, and the character behind them shows that they are not
    have hempty : s = "" := String.toList_eq_nil_iff.mp hs
    have htwice : step (.opened mark) mark = some ([], .twice mark) := if_pos rfl
    rw [List.flatMap_nil, List.nil_append, advance_silent _ htwice, hempty]
    refine advance_behind hrest fun d hd => ?_
    have hne : d ≠ mark := by
      rintro rfl
      rw [(not_goes_on hd).2] at hmark
      cases hmark
    exact if_neg hne
  · have hback := ne_backslash_of_isQuote hmark
    obtain ⟨d, u, hd, hne⟩ := quotedChar_cons hback c
    have hfirst : step (.opened mark) d = step (.text (short mark) []) d := if_neg hne
    have hsame (t : List Char) : advance (.opened mark) (d :: t) =
        advance (.text (short mark) []) (d :: t) := by rw [advance, advance, hfirst]
    have hcloses : step (.text (short mark) s.toList) mark = some ([.text s], .gap) := by
      simp [step, inText, hback]
    rw [List.flatMap_cons, hd, List.cons_append, List.cons_append, hsame, ← List.cons_append,
      ← List.cons_append, ← hd, ← List.flatMap_cons, ← hs, advance_quotedChars hmark,
      List.nil_append, advance_cons _ hcloses]

/-- A text between three quotes, which goes over several lines, stands for what is between
them where nothing needs an escape. -/
theorem advance_long {mark : Char} (hmark : isQuote mark = true) {s : List Char}
    (hs : ∀ c ∈ s, c ≠ mark ∧ c ≠ '\\' ∧ isForeign c = false) (rest : List Char) :
    advance .start (mark :: mark :: mark :: (s ++ mark :: mark :: mark :: rest)) =
      before [.text (String.ofList s)] (advance .gap rest) := by
  have hback := ne_backslash_of_isQuote hmark
  have hfirst : step .start mark = some ([], .opened mark) := by
    rcases eq_of_isQuote hmark with rfl | rfl <;> rfl
  have hsecond : step (.opened mark) mark = some ([], .twice mark) := if_pos rfl
  have hthird : step (.twice mark) mark = some ([], .text ⟨mark, true⟩ []) := if_pos rfl
  -- between the quotes every character is taken as it is
  have hinside (read : List Char) : advance (.text ⟨mark, true⟩ read)
      (s ++ mark :: mark :: mark :: rest) =
        advance (.text ⟨mark, true⟩ (read ++ s)) (mark :: mark :: mark :: rest) := by
    induction s generalizing read with
    | nil => rw [List.nil_append, List.append_nil]
    | cons c s ih =>
      obtain ⟨⟨hne, hescape, hforeign⟩, hs⟩ := List.forall_mem_cons.mp hs
      have hstep : step (.text ⟨mark, true⟩ read) c =
          some ([], .text ⟨mark, true⟩ (read ++ [c])) := by
        simp [step, inText, hne, hescape, hforeign]
      have hread : read ++ c :: s = read ++ [c] ++ s := by simp
      rw [List.cons_append, advance_silent _ hstep, ih hs, hread]
  have hfourth : step (.text ⟨mark, true⟩ s) mark = some ([], .closing mark s 1) := by
    simp [step, inText, hback]
  have hfifth : step (.closing mark s 1) mark = some ([], .closing mark s 2) := by simp [step]
  have hlast : step (.closing mark s 2) mark = some ([.text (String.ofList s)], .gap) := by
    simp [step]
  rw [advance_silent _ hfirst, advance_silent _ hsecond, advance_silent _ hthird, hinside,
    List.nil_append, advance_silent _ hfourth, advance_silent _ hfifth, advance_cons _ hlast]

end Scanner

/-! ## Lexemes -/

/-- A name: it starts like one, goes on like one, and is no reserved word. -/
structure IsName (s : String) : Prop where
  chars : ∃ c v, s.toList = c :: v ∧ Scanner.isNameStart c = true ∧
    ∀ d ∈ v, Scanner.isNameChar d = true
  free : s ∉ reserved

/-- A lexeme. A text has the quote that it stands between. -/
inductive Lexeme
  | name (s : String)
  | text (mark : Char) (s : String)
  | sign (c : Char)
  | blank

namespace Lexeme

/-- The characters of a lexeme. -/
def chars : Lexeme → List Char
  | name s => s.toList
  | text mark s => mark :: s.toList.flatMap (Text.quotedChar mark) ++ [mark]
  | sign c => [c]
  | blank => [' ']

/-- The tokens of a lexeme: one, or none if it is a blank. -/
def tokens : Lexeme → List Token
  | name s => [.name s]
  | text _ s => [.text s]
  | sign c => [.sign c]
  | blank => []

/-- A lexeme that can be read back. -/
def Ok : Lexeme → Prop
  | name s => IsName s
  | text mark _ => Scanner.isQuote mark = true
  | sign c => c ∈ Scanner.signs
  | blank => True

/-- Whether a lexeme must not touch another one of its kind. -/
def isSolid : Lexeme → Bool
  | name _ | text _ _ => true
  | sign _ | blank => false

/-- A text between the quotes that suit it. -/
def quote (s : String) : Lexeme := .text (Text.quoteFor s.toList) s

end Lexeme

/-- The characters of lexemes in a row. -/
def written (ls : List Lexeme) : List Char := ls.flatMap Lexeme.chars

/-- The tokens of lexemes in a row. -/
def spelled (ls : List Lexeme) : List Token := ls.flatMap Lexeme.tokens

@[simp] theorem written_nil : written [] = [] := rfl

@[simp] theorem written_cons (l : Lexeme) (ls : List Lexeme) :
    written (l :: ls) = l.chars ++ written ls := List.flatMap_cons

@[simp] theorem written_append (ls ms : List Lexeme) :
    written (ls ++ ms) = written ls ++ written ms := List.flatMap_append

@[simp] theorem spelled_nil : spelled [] = [] := rfl

@[simp] theorem spelled_cons (l : Lexeme) (ls : List Lexeme) :
    spelled (l :: ls) = l.tokens ++ spelled ls := List.flatMap_cons

@[simp] theorem spelled_append (ls ms : List Lexeme) :
    spelled (ls ++ ms) = spelled ls ++ spelled ms := List.flatMap_append

/-- Lexemes that can be read back in a row: no two solid ones touch. -/
def Legible : List Lexeme → Prop
  | [] => True
  | l :: ls => l.Ok ∧ (l.isSolid = true → ∀ m ∈ ls.head?, m.isSolid = false) ∧ Legible ls

namespace Lexeme

@[simp] theorem chars_name (s : String) : (name s).chars = s.toList := rfl

@[simp] theorem chars_sign (c : Char) : (sign c).chars = [c] := rfl

@[simp] theorem chars_blank : blank.chars = [' '] := rfl

@[simp] theorem chars_quote (s : String) : (quote s).chars = (Text.quote s).toList := by
  rw [Text.quote, String.toList_ofList]
  rfl

@[simp] theorem tokens_name (s : String) : (name s).tokens = [.name s] := rfl

@[simp] theorem tokens_text (mark : Char) (s : String) : (text mark s).tokens = [.text s] := rfl

@[simp] theorem tokens_sign (c : Char) : (sign c).tokens = [.sign c] := rfl

@[simp] theorem tokens_blank : blank.tokens = [] := rfl

@[simp] theorem tokens_quote (s : String) : (quote s).tokens = [.text s] := rfl

theorem quote_ok (s : String) : (quote s).Ok := by
  unfold quote Ok Text.quoteFor
  split_ifs <;> rfl

end Lexeme

theorem Legible.nil : Legible [] := trivial

theorem Legible.blank {ls : List Lexeme} (h : Legible ls) : Legible (.blank :: ls) :=
  ⟨trivial, nofun, h⟩

theorem Legible.sign {c : Char} {ls : List Lexeme} (hc : c ∈ Scanner.signs) (h : Legible ls) :
    Legible (.sign c :: ls) :=
  ⟨hc, nofun, h⟩

/-- A solid lexeme in front of a sign or a blank. -/
theorem Legible.solid {l m : Lexeme} {ls : List Lexeme} (hl : l.Ok) (hm : m.isSolid = false)
    (h : Legible (m :: ls)) : Legible (l :: m :: ls) :=
  ⟨hl, fun _ _ hmem => Option.some.inj hmem ▸ hm, h⟩

/-- A solid lexeme at the end of a row. -/
theorem Legible.last {l : Lexeme} (hl : l.Ok) : Legible [l] := ⟨hl, fun _ => nofun, .nil⟩

namespace Scanner

theorem isNameStart_facts {c : Char} (h : isNameStart c = true) :
    c ≠ ' ' ∧ c ≠ '\n' ∧ c ≠ '#' := by
  refine ⟨?_, ?_, ?_⟩ <;>
  · rintro rfl
    exact absurd h (by decide)

/-- A lexeme in front of a rest that ends it is read as its tokens. -/
theorem advance_chars {l : Lexeme} {rest : List Char} (hl : l.Ok)
    (hrest : l.isSolid = true → Ends rest) :
    advance .gap (l.chars ++ rest) = before l.tokens (advance .gap rest) := by
  cases l with
  | name s =>
    obtain ⟨c, v, hs, hc, hv⟩ := hl.chars
    obtain ⟨hblank, hfeed, hhash⟩ := isNameStart_facts hc
    have hstep : step .gap c = some ([], .name [c]) := by
      simp [step, opens, hblank, hfeed, hhash, hc]
    have hname : String.ofList ([c] ++ v) = s := by
      rw [List.singleton_append, ← hs, String.ofList_toList]
    rw [Lexeme.chars, hs, List.cons_append, advance_silent _ hstep, advance_name _ _ _ hv,
      advance_named (hrest rfl), hname]
    rfl
  | text mark s =>
    rw [Lexeme.chars, Lexeme.tokens, List.append_assoc, List.singleton_append]
    exact advance_quoted hl s (hrest rfl)
  | sign c =>
    have hall : signs.all fun d => step .gap d = some ([.sign d], .gap) := by decide
    have hstep : step .gap c = some ([.sign c], .gap) := by
      simpa using List.all_eq_true.mp hall c hl
    exact advance_cons rest hstep
  | blank =>
    have hstep : step .gap ' ' = some ([], .gap) := rfl
    rw [Lexeme.chars, Lexeme.tokens, before_nil, List.singleton_append, advance_silent _ hstep]

/-- What follows a solid lexeme in a row ends it. -/
theorem ends_written {ls : List Lexeme} {rest : List Char} (h : Legible ls)
    (hfirst : ∀ m ∈ ls.head?, m.isSolid = false) (hrest : Ends rest) :
    Ends (written ls ++ rest) := by
  cases ls with
  | nil => exact hrest
  | cons m ls =>
    have hm : m.isSolid = false := hfirst m rfl
    cases m with
    | name | text => cases hm
    | sign c =>
      have hc : c ∈ signs := h.1
      exact ⟨c, _, rfl, List.mem_cons_of_mem _ (List.mem_cons_of_mem _ hc)⟩
    | blank => exact ⟨' ', _, rfl, List.mem_cons_self⟩

/-- A row in front of a rest that ends it is read as its tokens. -/
theorem advance_row {ls : List Lexeme} {rest : List Char} (h : Legible ls) (hrest : Ends rest) :
    advance .gap (written ls ++ rest) = before (spelled ls) (advance .gap rest) := by
  induction ls with
  | nil => exact (before_nil _).symm
  | cons l ls ih =>
    obtain ⟨hl, hapart, hls⟩ := h
    have hends (hsolid : l.isSolid = true) : Ends (written ls ++ rest) :=
      ends_written hls (hapart hsolid) hrest
    rw [written_cons, List.append_assoc, advance_chars hl hends, ih hls, before_before,
      spelled_cons]

/-! ## Lines -/

/-- The end of a line. -/
theorem advance_feed : advance .gap ['\n'] = some ([.newline], .start) := rfl

theorem ends_feed : Ends ['\n'] := ⟨'\n', [], rfl, by decide⟩

/-- A row that a line consists of is read as its tokens, and the next line starts. -/
theorem advance_line {l : Lexeme} {ls : List Lexeme} (h : Legible (l :: ls)) (hl : l ≠ .blank) :
    advance .start (written (l :: ls) ++ ['\n']) =
      some (spelled (l :: ls) ++ [.newline], .start) := by
  obtain ⟨c, v, hcv, hc⟩ : ∃ c v, l.chars = c :: v ∧ c ≠ ' ' := by
    cases l with
    | name s =>
      obtain ⟨c, v, hs, hc, -⟩ := h.1.chars
      exact ⟨c, v, hs, (isNameStart_facts hc).1⟩
    | text mark s =>
      have hmark : isQuote mark = true := h.1
      refine ⟨mark, _, rfl, ?_⟩
      rintro rfl
      exact absurd hmark (by decide)
    | sign c =>
      have hc : c ∈ signs := h.1
      refine ⟨c, [], rfl, ?_⟩
      rintro rfl
      exact absurd hc (by decide)
    | blank => exact absurd rfl hl
  have hstart : step .start c = step .gap c := if_neg hc
  -- a line starts like a gap, but for blanks, which would indent it
  have hsame (t : List Char) : advance .start (c :: t) = advance .gap (c :: t) := by
    rw [advance, advance, hstart]
  rw [written_cons, hcv, List.cons_append, List.cons_append, hsame, ← List.cons_append,
    ← List.cons_append, ← hcv, ← written_cons, advance_row h ends_feed, advance_feed]
  rfl

/-- Blanks between tokens are no tokens. -/
theorem advance_blanks (n : Nat) (s : List Char) :
    advance .gap (List.replicate n ' ' ++ s) = advance .gap s := by
  induction n with
  | zero => rfl
  | succ n ih =>
    have hstep : step .gap ' ' = some ([], .gap) := rfl
    rw [List.replicate_succ, List.cons_append, advance_silent _ hstep, ih]

/-- A row behind blanks. -/
theorem advance_indented (n : Nat) {ls : List Lexeme} (h : Legible ls) :
    advance .start (List.replicate (n + 1) ' ' ++ (written ls ++ ['\n'])) =
      some (.indent :: (spelled ls ++ [.newline]), .start) := by
  have hstep : step .start ' ' = some ([.indent], .gap) := rfl
  rw [List.replicate_succ, List.cons_append, advance_cons _ hstep, advance_blanks,
    advance_row h ends_feed, advance_feed]
  rfl

/-- A comment is a line without tokens. -/
theorem advance_comment {s : List Char} (hs : ∀ c ∈ s, c ≠ '\n' ∧ isForeign c = false) :
    advance .start ('#' :: s ++ ['\n']) = some ([.newline], .start) := by
  have hopen : step .start '#' = some ([], .comment) := rfl
  rw [List.cons_append, advance_silent _ hopen]
  induction s with
  | nil => rfl
  | cons c s ih =>
    obtain ⟨⟨hfeed, hforeign⟩, hs⟩ := List.forall_mem_cons.mp hs
    have hstep : step .comment c = some ([], .comment) := by simp [step, hfeed, hforeign]
    rw [List.cons_append, advance_silent _ hstep]
    exact ih hs

end Scanner

end Relvar.Source
