/-
Statements as they are written: lexemes one after the other, blanks among them. Every
lexeme has a text, in which a parameter is marked in a style or, without a style, by
a question mark and its number. If no two words touch, the reader reads the text of
lexemes as the tokens of these lexemes, blanks left out.
-/
import Relvar.Column
import Relvar.Proofs.Decimal
import Relvar.Proofs.Sql.Token
import Mathlib.Data.List.Chain

set_option autoImplicit false

namespace Relvar.Sql

open Relvar.Text (singleQuote)

/-- A lexeme. -/
inductive Lexeme
  | word (s : String)
  | text (s : String)
  | marker (n : Nat)
  | sign (c : Char)
  | blank

namespace Lexeme

/-- The marker of a parameter in a style. -/
def markerText (n : Nat) : Option BindStyle → List Char
  | none => '?' :: Decimal.digits n
  | some .qmark => ['?']
  | some .format => ['%', 's']
  | some .numeric => ':' :: Decimal.digits n
  | some .dollar => '$' :: Decimal.digits n

/-- The text of a lexeme. -/
def chars (style : Option BindStyle) : Lexeme → List Char
  | word s => s.toList
  | text s => (quoteLiteral s).toList
  | marker n => markerText n style
  | sign c => [c]
  | blank => [' ']

/-- The number that a marker shows in a style. -/
def shown (n : Nat) : Option BindStyle → Option Nat
  | some .qmark | some .format => none
  | _ => some n

/-- The tokens of a lexeme: one, or none if it is a blank. -/
def tokens (style : Option BindStyle) : Lexeme → List Token
  | word s => [.word s]
  | text s => [.text s]
  | marker n => [.marker (shown n style)]
  | sign c => [.sign c]
  | blank => []

/-- The numbers of markers. -/
def markers : Lexeme → List Nat
  | marker n => [n]
  | _ => []

/-- The signs that statements are written with. -/
def signs : List Char := ['(', ')', ',', ';', '=', '-']

/-- A lexeme that can be read back. -/
def Ok : Lexeme → Prop
  | word s => IsWord s
  | sign c => c ∈ signs
  | _ => True

instance : DecidablePred Ok
  | word s => inferInstanceAs (Decidable (IsWord s))
  | sign c => inferInstanceAs (Decidable (c ∈ signs))
  | text _ | marker _ | blank => inferInstanceAs (Decidable True)

/-- Whether a lexeme must not touch another one of its kind. -/
def isSolid : Lexeme → Bool
  | sign _ | blank => false
  | _ => true

end Lexeme

/-- The text of lexemes as statements are written. -/
abbrev written (ls : List Lexeme) : List Char := ls.flatMap (Lexeme.chars none)

/-- The tokens of lexemes as statements are written. -/
abbrev spelled (ls : List Lexeme) : List Token := ls.flatMap (Lexeme.tokens none)

/-- Lexemes that can be read back in a row. -/
structure Legible (ls : List Lexeme) : Prop where
  ok : ∀ l ∈ ls, l.Ok
  apart : ls.IsChain fun l m => (l.isSolid && m.isSolid) = false

instance (ls : List Lexeme) : Decidable (Legible ls) :=
  decidable_of_iff ((∀ l ∈ ls, l.Ok) ∧ ls.IsChain fun l m => (l.isSolid && m.isSolid) = false)
    ⟨fun h => ⟨h.1, h.2⟩, fun h => ⟨h.ok, h.apart⟩⟩

/-- A text that starts with a blank or a sign, if it is not empty: whatever is in front
of it ends there. -/
def Ends (s : List Char) : Prop := ∀ c ∈ s.head?, c = ' ' ∨ c ∈ Lexeme.signs

namespace Scanner

variable {style : Option BindStyle}

/-- The tokens in front of those of the rest of a text. -/
def before (ts : List Token) (rest : Option (List Token)) : Option (List Token) :=
  rest.map (ts ++ ·)

@[simp] theorem before_nil (rest : Option (List Token)) : before [] rest = rest := by
  simp [before]

theorem before_before (ts us : List Token) (rest : Option (List Token)) :
    before ts (before us rest) = before (ts ++ us) rest := by
  simp [before, Function.comp_def]

theorem scan_cons {m next : Mode} {c : Char} {ts : List Token} (s : List Char)
    (h : step style m c = some (ts, next)) :
    scan style m (c :: s) = before ts (scan style next s) := by
  rw [scan, h]
  rfl

theorem step_gap (c : Char) :
    step style .gap c = some ((opens style c).1, (opens style c).2) := rfl

/-- What the scanner is in the middle of ends where the rest does not continue it. -/
theorem scan_ends {m : Mode} {ts : List Token} {rest : List Char} (hclose : close m = some ts)
    (hrest : ∀ c ∈ rest.head?, continues m c = none) :
    scan style m rest = before ts (scan style .gap rest) := by
  cases rest with
  | nil => rw [scan, hclose]; exact congrArg some (List.append_nil ts).symm
  | cons c s =>
    have hstep : step style m c = some (ts ++ (opens style c).1, (opens style c).2) := by
      simp [step, hrest c rfl, hclose]
    rw [scan_cons s (step_gap c), scan_cons s hstep, before_before]

theorem scan_continues {m next : Mode} {c : Char} (s : List Char)
    (h : continues m c = some ([], next)) : scan style m (c :: s) = scan style next s := by
  have hstep : step style m c = some ([], next) := by simp [step, h]
  rw [scan_cons s hstep, before_nil]

/-! ## Words, texts and markers -/

theorem scan_word (w v rest : List Char) (hv : ∀ c ∈ v, isWordChar c = true) :
    scan style (.word w) (v ++ rest) = scan style (.word (w ++ v)) rest := by
  induction v generalizing w with
  | nil => simp
  | cons c v ih =>
    obtain ⟨hc, hv⟩ := List.forall_mem_cons.mp hv
    have hstep : continues (.word w) c = some ([], .word (w ++ [c])) := if_pos hc
    rw [List.cons_append, scan_continues _ hstep, ih _ hv, List.append_assoc]
    rfl

theorem scan_number (ds v rest : List Char) (hv : ∀ c ∈ v, c.isDigit = true) :
    scan style (.number ds) (v ++ rest) = scan style (.number (ds ++ v)) rest := by
  induction v generalizing ds with
  | nil => simp
  | cons c v ih =>
    obtain ⟨hc, hv⟩ := List.forall_mem_cons.mp hv
    have hstep : continues (.number ds) c = some ([], .number (ds ++ [c])) := if_pos hc
    rw [List.cons_append, scan_continues _ hstep, ih _ hv, List.append_assoc]
    rfl

/-- A text goes on over the quotes in it, which are doubled. -/
theorem scan_quoted (t v rest : List Char) :
    scan style (.quoted t) ((v.flatMap fun c =>
      if c = singleQuote then [singleQuote, singleQuote] else [c]) ++ rest) =
      scan style (.quoted (t ++ v)) rest := by
  induction v generalizing t with
  | nil => simp
  | cons c v ih =>
    have hnext : t ++ c :: v = t ++ [c] ++ v := by simp
    rw [List.flatMap_cons, List.append_assoc, hnext, ← ih]
    by_cases hc : c = singleQuote
    · -- the first quote may close the text, the second shows that it does not
      have hfirst : continues (.quoted t) singleQuote = some ([], .closing t) := by
        simp [continues]
      have hsecond : continues (.closing t) singleQuote =
          some ([], .quoted (t ++ [singleQuote])) := by simp [continues]
      rw [if_pos hc, hc, List.cons_append, List.singleton_append, scan_continues _ hfirst,
        scan_continues _ hsecond]
    · have hstep : continues (.quoted t) c = some ([], .quoted (t ++ [c])) := by
        simp [continues, hc]
      rw [if_neg hc, List.singleton_append, scan_continues _ hstep]

/-! ## Lexemes -/

theorem isWordChar_of_ends {s : List Char} (h : Ends s) :
    ∀ c ∈ s.head?, isWordChar c = false ∧ c ≠ singleQuote ∧ c.isDigit = false := by
  intro c hc
  have hall : (' ' :: Lexeme.signs).all fun d =>
      !isWordChar d && d != singleQuote && !d.isDigit := by decide
  have hpass := List.all_eq_true.mp hall c (List.mem_cons.mpr (h c hc))
  simpa [and_assoc] using hpass

theorem opens_word {c : Char} (hc : isWordChar c = true) : opens style c = ([], .word [c]) := by
  have hblank : c ≠ ' ' := by
    rintro rfl
    exact absurd hc (by decide)
  have hquote : c ≠ singleQuote := by
    rintro rfl
    exact absurd hc (by decide)
  simp [opens, hblank, hquote, hc]

/-- A marker with a number is read to the end of its digits. -/
theorem scan_digits {n : Nat} {rest : List Char} (hrest : Ends rest) :
    scan style (.number []) (Decimal.digits n ++ rest) =
      before [.marker (some n)] (scan style .gap rest) := by
  have hdigits : ∀ c ∈ Decimal.digits n, c.isDigit = true := fun c =>
    Decimal.isDigit_of_mem_digits
  rw [scan_number _ _ _ hdigits, List.nil_append]
  refine scan_ends ?_ fun c hc => ?_
  · rw [close, if_neg (Decimal.digits_ne_nil n), valueOf, Decimal.digits,
      Nat.ofDigitChars_ten_toDigits]
  · exact if_neg (by simp [(isWordChar_of_ends hrest c hc).2.2])

/-- A word is read to its last character. -/
theorem scan_chars_word {w : String} {rest : List Char} (hw : IsWord w) (hrest : Ends rest) :
    scan style .gap ((Lexeme.word w).chars style ++ rest) =
      before ((Lexeme.word w).tokens style) (scan style .gap rest) := by
  obtain ⟨hne, hchars⟩ := hw
  obtain ⟨c, v, hcv⟩ := List.exists_cons_of_ne_nil (mt String.toList_eq_nil_iff.mp hne)
  have hword : [c] ++ v = w.toList := hcv.symm
  rw [hcv] at hchars
  obtain ⟨hc, hv⟩ := List.forall_mem_cons.mp hchars
  rw [Lexeme.chars, hcv, List.cons_append, scan_cons _ (step_gap c), opens_word hc, before_nil,
    scan_word _ _ _ hv, hword]
  refine (scan_ends rfl fun d hd => ?_).trans ?_
  · exact if_neg (by simp [(isWordChar_of_ends hrest d hd).1])
  · rw [String.ofList_toList]
    rfl

/-- A text is read to the quote that closes it, which is one that no quote follows. -/
theorem scan_chars_text (s : String) {rest : List Char} (hrest : Ends rest) :
    scan style .gap ((Lexeme.text s).chars style ++ rest) =
      before ((Lexeme.text s).tokens style) (scan style .gap rest) := by
  have hopens : opens style singleQuote = ([], .quoted []) := rfl
  have hclosing : continues (.quoted s.toList) singleQuote = some ([], .closing s.toList) := by
    simp [continues]
  rw [Lexeme.chars, quoteLiteral, String.toList_ofList, List.cons_append, List.cons_append,
    List.append_assoc, scan_cons _ (step_gap _), hopens, before_nil, scan_quoted, List.nil_append,
    List.singleton_append, scan_continues _ hclosing]
  refine (scan_ends rfl fun d hd => ?_).trans ?_
  · exact if_neg (isWordChar_of_ends hrest d hd).2.1
  · rw [String.ofList_toList]
    rfl

/-- A marker is read in each style: one character, two, or a character and a number. -/
theorem scan_chars_marker (n : Nat) {rest : List Char} (hrest : Ends rest) :
    scan style .gap ((Lexeme.marker n).chars style ++ rest) =
      before ((Lexeme.marker n).tokens style) (scan style .gap rest) := by
  rcases style with _ | _ | _ | _ | _
  · exact (scan_cons _ (step_gap '?')).trans ((before_nil _).trans (scan_digits hrest))
  · exact scan_cons _ (step_gap '?')
  · refine (scan_cons _ (step_gap '%')).trans ((before_nil _).trans ?_)
    exact scan_cons _ (by rfl)
  · exact (scan_cons _ (step_gap ':')).trans ((before_nil _).trans (scan_digits hrest))
  · exact (scan_cons _ (step_gap '$')).trans ((before_nil _).trans (scan_digits hrest))

/-- A sign is a token of its own, whatever follows it. -/
theorem step_sign {c : Char} (hc : c ∈ Lexeme.signs) :
    step style .gap c = some ([.sign c], .gap) := by
  have hall : Lexeme.signs.all fun d => opens style d = ([.sign d], .gap) := by
    rcases style with _ | _ | _ | _ | _ <;> decide
  have hopens : opens style c = ([.sign c], .gap) := by
    simpa using List.all_eq_true.mp hall c hc
  rw [step_gap, hopens]

/-- A lexeme in front of a rest that ends it is read as its tokens. -/
theorem scan_chars {l : Lexeme} {rest : List Char} (hl : l.Ok)
    (hrest : l.isSolid = true → Ends rest) :
    scan style .gap (l.chars style ++ rest) = before (l.tokens style) (scan style .gap rest) := by
  cases l with
  | word w => exact scan_chars_word hl (hrest rfl)
  | text s => exact scan_chars_text s (hrest rfl)
  | marker n => exact scan_chars_marker n (hrest rfl)
  | sign c => exact scan_cons rest (step_sign hl)
  | blank => exact scan_cons rest (step_gap ' ')

end Scanner

/-! ## Lexemes in a row -/

/-- What follows a solid lexeme in a row ends it. -/
theorem Legible.ends {style : Option BindStyle} {l : Lexeme} {ls : List Lexeme}
    (h : Legible (l :: ls)) (hl : l.isSolid = true) : Ends (ls.flatMap (Lexeme.chars style)) := by
  cases ls with
  | nil => exact fun c hc => nomatch hc
  | cons m ls =>
    have hm : m.isSolid = false := by simpa [hl] using (List.isChain_cons_cons.mp h.apart).1
    have hok := h.ok m (by simp)
    cases m with
    | word | text | marker => cases hm
    | sign d =>
      intro c hc
      obtain rfl : d = c := Option.some.inj hc
      exact .inr hok
    | blank =>
      intro c hc
      exact .inl (Option.some.inj hc).symm

theorem Legible.tail {l : Lexeme} {ls : List Lexeme} (h : Legible (l :: ls)) : Legible ls :=
  ⟨fun m hm => h.ok m (List.mem_cons_of_mem _ hm), h.apart.tail⟩

/-- **Reading undoes writing.** The text of lexemes that can be read back is read as
their tokens. -/
theorem Legible.tokens {ls : List Lexeme} (h : Legible ls) (style : Option BindStyle) :
    Sql.tokens style (String.ofList (ls.flatMap (Lexeme.chars style))) =
      some (ls.flatMap (Lexeme.tokens style)) := by
  rw [Sql.tokens, String.toList_ofList]
  induction ls with
  | nil => rfl
  | cons l ls ih =>
    rw [List.flatMap_cons, Scanner.scan_chars (h.ok l List.mem_cons_self) h.ends, ih h.tail]
    rfl

theorem Legible.append {ls ms : List Lexeme} (hl : Legible ls) (hm : Legible ms)
    (h : (∀ l ∈ ls.getLast?, l.isSolid = false) ∨ ∀ m ∈ ms.head?, m.isSolid = false) :
    Legible (ls ++ ms) := by
  refine ⟨fun l hl' => (List.mem_append.mp hl').elim (hl.ok l) (hm.ok l), ?_⟩
  refine List.isChain_append.mpr ⟨hl.apart, hm.apart, fun l hl' m hm' => ?_⟩
  rw [Bool.and_eq_false_iff]
  exact h.imp (fun h => h l hl') fun h => h m hm'

/-- A number is a word. -/
theorem isWord_ofNat (n : Nat) : IsWord (Decimal.ofNat n) := by
  refine ⟨?_, fun c hc => ?_⟩
  · rw [Decimal.ofNat, Ne, ← String.toList_eq_nil_iff, String.toList_ofList]
    exact Decimal.digits_ne_nil n
  · rw [Decimal.ofNat, String.toList_ofList] at hc
    have hdigit : c.isDigit = true := Decimal.isDigit_of_mem_digits hc
    simp [isWordChar, Char.isAlphanum, hdigit]

/-- What stands between the items of an enumeration. -/
def comma : List Lexeme := [.sign ',', .blank]

/-- A separator: nothing touches it. -/
def IsSeparator (sep : List Lexeme) : Prop := sep = [.blank] ∨ sep = comma

theorem IsSeparator.legible {sep : List Lexeme} (h : IsSeparator sep) : Legible sep := by
  rcases h with rfl | rfl
  · exact ⟨by simp [Lexeme.Ok], by simp⟩
  · exact ⟨by simp [comma, Lexeme.Ok, Lexeme.signs], by simp [comma, Lexeme.isSolid]⟩

/-- Rows are one row with a separator between them. -/
theorem Legible.intercalate {sep : List Lexeme} {rows : List (List Lexeme)}
    (hsep : IsSeparator sep) (h : ∀ ls ∈ rows, Legible ls) :
    Legible (sep.intercalate rows) := by
  have hhead : ∀ l ∈ sep.head?, l.isSolid = false := by
    rcases hsep with rfl | rfl <;> simp [comma, Lexeme.isSolid]
  have hlast : ∀ ls l, l ∈ (ls ++ sep).getLast? → l.isSolid = false := by
    rcases hsep with rfl | rfl <;> simp [comma, Lexeme.isSolid]
  induction rows with
  | nil => exact ⟨by simp, by simp⟩
  | cons ls rows ih =>
    obtain ⟨hls, hrows⟩ := List.forall_mem_cons.mp h
    -- the last row has no separator behind it
    cases rows with
    | nil => rwa [List.intercalate_singleton]
    | cons ms rows =>
      rw [List.intercalate_cons_cons]
      exact (hls.append hsep.legible (.inr hhead)).append (ih hrows) (.inl (hlast ls))

/-- What is said of each of several rows is said of them with separators between. -/
theorem flatMap_intercalate {α β : Type} (f : α → List β) (sep : List α) (rows : List (List α)) :
    (sep.intercalate rows).flatMap f = (sep.flatMap f).intercalate (rows.map (·.flatMap f)) := by
  induction rows with
  | nil => rfl
  | cons ls rows ih =>
    cases rows with
    | nil => simp
    | cons ms rows => simp_all

theorem intercalate_nil_left {α : Type} (rows : List (List α)) :
    List.intercalate [] rows = rows.flatten := by
  induction rows with
  | nil => rfl
  | cons ls rows ih => cases rows <;> simp_all

theorem mem_intercalate {α : Type} {sep : List α} {rows : List (List α)} {a : α}
    (h : a ∈ sep.intercalate rows) : a ∈ sep ∨ ∃ ls ∈ rows, a ∈ ls := by
  induction rows with
  | nil => cases h
  | cons ls rows ih =>
    -- the last row has no separator behind it
    cases rows with
    | nil => exact .inr ⟨ls, by simp, by simpa using h⟩
    | cons ms rows =>
      rw [List.intercalate_cons_cons, List.mem_append, List.mem_append] at h
      rcases h with (h | h) | h
      · exact .inr ⟨ls, by simp, h⟩
      · exact .inl h
      · exact (ih h).imp_right fun ⟨ls', hls', ha⟩ => ⟨ls', List.mem_cons_of_mem _ hls', ha⟩

end Relvar.Sql
