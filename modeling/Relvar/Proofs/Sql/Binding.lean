/-
Statements turned into a style. The pieces of a statement are found character by
character; of one that is written as lexemes, they are the pieces of these lexemes. So
the statement in the style is written as the same lexemes with the markers of the
style, and the parameters are sent in the order that they had, as long as the markers
count them from one on.
-/
import Relvar.Proofs.Outcome
import Relvar.Proofs.Sql.Lexeme
import Relvar.Proofs.Statement.Piece
import Relvar.Statement.Binding

set_option autoImplicit false

namespace Relvar.Statement

/-! ## Pieces -/

open Sql (Lexeme Legible Ends written)

/-- A rest that ends what is in front of it goes on with no digit. -/
theorem stops_of_ends {rest : List Char} (h : Ends rest) : Stops rest := by
  intro c hc
  have hall : (' ' :: Lexeme.signs).all fun d => !Text.isDecimal d := by decide +kernel
  simpa using List.all_eq_true.mp hall c (List.mem_cons.mpr (h c hc))

/-- A number is written as the digits of a marker. -/
theorem isNumeral_digits (n : Nat) : IsNumeral (Decimal.digits n) :=
  ⟨Decimal.digits_ne_nil n, fun _ hc =>
    Decimal.isDecimal_of_isDigit (Decimal.isDigit_of_mem_digits hc)⟩

/-- The pieces of a lexeme. -/
def lexemePieces : Lexeme → List Piece
  | .marker n => [.marker (Decimal.digits n)]
  | l => (l.chars none).map .plain

theorem lexemePieces_of_ne {l : Lexeme} (h : ∀ n, l ≠ .marker n) :
    lexemePieces l = (l.chars none).map .plain := by
  cases l <;> first | rfl | exact absurd rfl (h _)

/-- Lexemes without texts. -/
def Textless (ls : List Lexeme) : Prop := ∀ s, .text s ∉ ls

/-- A word, a sign and a blank hold neither a question mark nor a percent sign. -/
theorem plain_chars {l : Lexeme} (hl : l.Ok) (htext : ∀ s, l ≠ .text s)
    (hmarker : ∀ n, l ≠ .marker n) (style : Option BindStyle) :
    l.chars style = l.chars none ∧ ∀ c ∈ l.chars none, c ≠ '?' ∧ c ≠ '%' := by
  cases l with
  | word s =>
    refine ⟨rfl, fun c hc => ?_⟩
    have hword := hl.2 c hc
    constructor <;> rintro rfl <;> exact absurd hword (by decide)
  | text s => exact absurd rfl (htext s)
  | marker n => exact absurd rfl (hmarker n)
  | sign c =>
    refine ⟨rfl, fun d hd => ?_⟩
    obtain rfl := List.mem_singleton.mp hd
    have hall : Lexeme.signs.all fun d => d != '?' && d != '%' := by decide
    simpa using List.all_eq_true.mp hall d hl
  | blank =>
    refine ⟨rfl, fun d hd => ?_⟩
    obtain rfl := List.mem_singleton.mp hd
    decide

/-- The pieces of a statement are the pieces of its lexemes. -/
theorem pieces_written {ls : List Lexeme} (h : Legible ls) (htext : Textless ls) :
    pieces (written ls) = ls.flatMap lexemePieces := by
  induction ls with
  | nil => rfl
  | cons l ls ih =>
    have hrest := ih h.tail fun s hs => htext s (List.mem_cons_of_mem _ hs)
    rw [List.flatMap_cons, ← hrest, written, List.flatMap_cons]
    -- a marker is cut out as one piece, so what follows it must not go on with its digits
    by_cases hmarker : ∃ n, l = .marker n
    · obtain ⟨n, rfl⟩ := hmarker
      exact pieces_marker (isNumeral_digits n) (stops_of_ends (h.ends rfl))
    · have hne : ∀ n, l ≠ .marker n := fun n hn => hmarker ⟨n, hn⟩
      have hplain := (plain_chars (h.ok l List.mem_cons_self)
        (fun s hs => htext s (hs ▸ List.mem_cons_self)) hne none).2
      rw [pieces, List.foldr_append, foldr_cons _ fun hc => (hplain _ hc).1 rfl,
        lexemePieces_of_ne hne]
      rfl

theorem flatMap_render (style : BindStyle) {s : List Char} (hs : ∀ c ∈ s, c ≠ '%') :
    (s.map Piece.plain).flatMap (Piece.render style) = s := by
  induction s with
  | nil => rfl
  | cons c s ih =>
    obtain ⟨hc, hs⟩ := List.forall_mem_cons.mp hs
    simp [Piece.render, hc, ih hs]

/-- In a style, a lexeme is written with the marker of the style. -/
theorem render_lexeme (style : BindStyle) {l : Lexeme} (hl : l.Ok) (htext : ∀ s, l ≠ .text s) :
    (lexemePieces l).flatMap (Piece.render style) = l.chars (some style) := by
  by_cases hmarker : ∃ n, l = .marker n
  · obtain ⟨n, rfl⟩ := hmarker
    cases style <;> simp [lexemePieces, Piece.render, Lexeme.chars, Lexeme.markerText]
  · have hne : ∀ n, l ≠ .marker n := fun n hn => hmarker ⟨n, hn⟩
    obtain ⟨hchars, hplain⟩ := plain_chars hl htext hne (some style)
    rw [lexemePieces_of_ne hne, hchars, flatMap_render style fun c hc => (hplain c hc).2]

theorem flatMap_render_lexemes (style : BindStyle) {ls : List Lexeme} (h : Legible ls)
    (htext : Textless ls) :
    (ls.flatMap lexemePieces).flatMap (Piece.render style) =
      ls.flatMap (Lexeme.chars (some style)) := by
  induction ls with
  | nil => rfl
  | cons l ls ih =>
    have hl := render_lexeme style (h.ok l List.mem_cons_self)
      fun s hs => htext s (hs ▸ List.mem_cons_self)
    rw [List.flatMap_cons, List.flatMap_append, hl,
      ih h.tail fun s hs => htext s (List.mem_cons_of_mem _ hs), List.flatMap_cons]

/-! ## Parameters -/

theorem markers_lexemePieces (ls : List Lexeme) :
    Piece.markers (ls.flatMap lexemePieces) =
      (ls.flatMap Lexeme.markers).map Decimal.digits := by
  induction ls with
  | nil => rfl
  | cons l ls ih =>
    rw [List.flatMap_cons, markers_append, ih, List.flatMap_cons, List.map_append]
    cases l <;> simp [lexemePieces, Lexeme.markers, Piece.markers, markers_plain]

/-- Numbers that have few enough digits are read back. -/
theorem numbers_digits {ns : List Nat} (h : ∀ n ∈ ns, n < Decimal.firstTooLong) :
    numbers (ns.map Decimal.digits) = .ok ns := by
  induction ns with
  | nil => rfl
  | cons n ns ih =>
    obtain ⟨hn, hns⟩ := List.forall_mem_cons.mp h
    rw [List.map_cons, numbers, Decimal.readDigits_digits, if_neg (Nat.not_le.mpr hn), ih hns]
    rfl

/-- A number that has too many digits is refused. -/
theorem numbers_digits_error {ns : List Nat} {n : Nat} (hn : n ∈ ns)
    (hlarge : Decimal.firstTooLong ≤ n) :
    ∃ e, numbers (ns.map Decimal.digits) = .error (.numeral e) := by
  induction ns with
  | nil => cases hn
  | cons m ns ih =>
    rw [List.map_cons, numbers, Decimal.readDigits_digits]
    -- the first number that is too long is refused, whichever one was given
    by_cases hm : Decimal.firstTooLong ≤ m
    · rw [if_pos hm]
      exact ⟨_, rfl⟩
    · rcases List.mem_cons.mp hn with rfl | hn
      · exact absurd hlarge hm
      · obtain ⟨e, he⟩ := ih hn
        rw [if_neg hm, he]
        exact ⟨e, rfl⟩

/-- Markers that count the parameters pick each of them, in order. -/
theorem pick_range {α : Type} (pre params : List α) :
    pick (pre ++ params) (List.range' (pre.length + 1) params.length) = .ok params := by
  induction params generalizing pre with
  | nil => rfl
  | cons p params ih =>
    have hrest := ih (pre ++ [p])
    have hlist : pre ++ [p] ++ params = pre ++ p :: params := by simp
    have hfirst : (pre ++ p :: params)[pre.length + 1 - 1]? = some p := by simp
    rw [hlist, List.length_append, List.length_singleton] at hrest
    rw [List.length_cons, List.range'_succ, pick, hrest]
    · rfl
    · exact hfirst

/-- **A statement in a style.** A statement whose markers count its parameters is sent
with the markers of the style and the parameters as they are, unless there are so many
that the number of one has too many digits. -/
theorem bind_written {α : Type} (style : BindStyle) {ls : List Lexeme} {params : List α}
    (h : Legible ls) (htext : Textless ls)
    (hmarkers : ls.flatMap Lexeme.markers = List.range' 1 params.length) :
    bind style (String.ofList (written ls)) params =
        .ok (String.ofList (ls.flatMap (Lexeme.chars (some style))), params) ∨
      Decimal.firstTooLong ≤ params.length ∧
        ∃ e, bind style (String.ofList (written ls)) params = .error (.numeral e) := by
  have hpieces : Piece.markers (pieces (String.ofList (written ls)).toList) =
      (List.range' 1 params.length).map Decimal.digits := by
    rw [String.toList_ofList, pieces_written h htext, markers_lexemePieces, hmarkers]
  by_cases hlarge : Decimal.firstTooLong ≤ params.length
  · refine .inr ⟨hlarge, ?_⟩
    have hpos := Decimal.firstTooLong_pos
    -- the last marker has the greatest number
    have hlast : params.length ∈ List.range' 1 params.length :=
      List.mem_range'_1.mpr ⟨by omega, by omega⟩
    obtain ⟨e, he⟩ := numbers_digits_error hlast hlarge
    exact ⟨e, by rw [bind, hpieces, he]; rfl⟩
  · have hsmall : ∀ n ∈ List.range' 1 params.length, n < Decimal.firstTooLong := by
      intro n hn
      have hrange := List.mem_range'_1.mp hn
      omega
    have hnumbers := numbers_digits hsmall
    have hpick := pick_range [] params
    rw [List.nil_append] at hpick
    left
    have hrendered : String.ofList ((pieces (String.ofList (written ls)).toList).flatMap
        (Piece.render style)) = String.ofList (ls.flatMap (Lexeme.chars (some style))) := by
      rw [String.toList_ofList, pieces_written h htext, flatMap_render_lexemes style h htext]
    rw [bind, hpieces, hnumbers, hrendered]
    have hordered : pick params (List.range' 1 params.length) = .ok params := hpick
    cases style <;> simp only [Bind.bind, Except.bind, hordered] <;> rfl

end Relvar.Statement
