/-
Types in text. A text is accepted as a type exactly if it is the name of a type between blanks,
or one wrapper around such a text. One wrapper is taken off whatever stands in it, and never two,
so a wrapper in a wrapper is refused, and so are brackets that do not match or are too many.
-/
import Relvar.Proofs.Field.TypeName

set_option autoImplicit false

namespace Relvar.TypeName

open Text

/-- A declared type that is refused for its type. -/
def Refused (v : Value) : Prop :=
  ∃ c, FieldType.ofDeclared v = .error c ∧ c.code = .unsupportedFieldType

/-- Whether a character is a bracket of a wrapper. -/
def isBracket (c : Char) : Bool := wrapperBrackets.any fun p => c = p.1 || c = p.2

variable {v : Value} {s inner : List Char} {text : String} {t : FieldType} {b : Bool}

/-! ## Wrappers -/

/-- Inside a wrapper a type is wrapped exactly if its name is all that stands there. -/
theorem Wraps.wrapped_iff (h : Wraps s inner) : Wrapped s t ↔ Bare inner t := by
  have hunwrap := unwrapText?_eq_some.mpr ⟨inner, h, rfl⟩
  rw [TypeName.wrapped_iff, hunwrap, Option.some.injEq, bare_iff]

theorem Wraps.not_bare (h : Wraps s inner) : ¬ Bare s t := by
  have hunwrap := unwrapText?_eq_some.mpr ⟨inner, h, rfl⟩
  intro hbare
  rw [unwrapText?_of_bare hbare] at hunwrap
  cases hunwrap

theorem not_bare_of_isBlankText (h : IsBlankText s) : ¬ Bare s t := by
  have hnil : trim s = [] := by
    rw [trim, trimStart, List.dropWhile_eq_nil_iff.mpr h]
    rfl
  rw [bare_iff, hnil]
  cases t <;> decide

theorem unwrapText_eq_true {w : Value} : unwrapText text = (w, true) ↔
    ∃ inner, unwrapText? text.toList = some inner ∧ w = .str (String.ofList inner) := by
  unfold unwrapText
  cases unwrapText? text.toList <;> simp [eq_comm]

/-- A wrapper is taken off a text exactly if the text is one, and with it the blanks inside. -/
theorem unwrap_eq_ok_true (hv : v.asText? = some text) {w : Value} :
    unwrap v = .ok (w, true) ↔
      ∃ inner, Wraps text.toList inner ∧ w = .str (String.ofList (trim inner)) := by
  by_cases hsemantic : ∃ t, v = .semantic t
  · -- a field type is text too, but its name is no wrapper
    obtain ⟨t, rfl⟩ := hsemantic
    obtain rfl : t.name = text := Option.some.inj hv
    constructor
    · intro h
      cases h
    · rintro ⟨inner, h, -⟩
      exact absurd (bare_name t) h.not_bare
  · rw [unwrap_text hv fun t h => hsemantic ⟨t, h⟩, Except.ok.injEq, unwrapText_eq_true]
    simp only [unwrapText?_eq_some]
    constructor
    · rintro ⟨_, ⟨inner, hwraps, rfl⟩, rfl⟩
      exact ⟨inner, hwraps, rfl⟩
    · rintro ⟨inner, hwraps, rfl⟩
      exact ⟨_, ⟨inner, hwraps, rfl⟩, rfl⟩

/-! ## Brackets -/

theorem filter_isBracket_blank (h : IsBlankText s) : s.filter isBracket = [] := by
  rw [List.filter_eq_nil_iff]
  intro c hc hbracket
  have hblank := h c hc
  simp only [isBracket, wrapperBrackets, List.any_cons, List.any_nil, Bool.or_false,
    Bool.or_eq_true, decide_eq_true_eq] at hbracket
  rcases hbracket with (rfl | rfl) | (rfl | rfl) <;> exact absurd hblank (by decide)

theorem filter_isBracket_bare (h : Bare s t) : s.filter isBracket = [] := by
  obtain ⟨pre, post, hpre, hpost, rfl⟩ := h
  have hname : t.name.toList.filter isBracket = [] := by cases t <;> decide
  simp [filter_isBracket_blank hpre, filter_isBracket_blank hpost, hname]

theorem filter_isBracket_wrapped (h : Wrapped s t) :
    ∃ brackets ∈ wrapperBrackets, s.filter isBracket = [brackets.1, brackets.2] := by
  obtain ⟨pre, word, gap, brackets, inner, post, rfl, hpre, hgap, hpost, hword, hbrackets, -,
    hinner⟩ := h
  have hwords : ∀ word ∈ wrapperNames, word.toList.filter isBracket = [] := by decide
  have hpairs : ∀ p ∈ wrapperBrackets, isBracket p.1 = true ∧ isBracket p.2 = true := by decide
  obtain ⟨hopening, hclosing⟩ := hpairs brackets hbrackets
  exact ⟨brackets, hbrackets, by
    simp [filter_isBracket_blank hpre, filter_isBracket_blank hgap, filter_isBracket_blank hpost,
      hwords word hword, filter_isBracket_bare hinner, hopening, hclosing]⟩

/-! ## Texts -/

theorem ofDeclared_eq_ok_text (hv : v.asText? = some text) :
    FieldType.ofDeclared v = .ok (t, b) ↔
      (b = false ∧ Bare text.toList t) ∨ (b = true ∧ Wrapped text.toList t) :=
  ofDeclared_eq_ok.trans (reads_text hv)

theorem refused_iff (hv : v.asText? = some text) :
    Refused v ↔ ∀ t, ¬ Bare text.toList t ∧ ¬ Wrapped text.toList t := by
  constructor
  · rintro ⟨c, hc, -⟩ t
    have hno : ∀ b, ¬ FieldType.ofDeclared v = .ok (t, b) := fun b h => by simp [hc] at h
    simp only [ofDeclared_eq_ok_text hv] at hno
    exact ⟨fun h => hno false (.inl ⟨rfl, h⟩), fun h => hno true (.inr ⟨rfl, h⟩)⟩
  · intro hno
    -- a reading that succeeds is of one of the two spellings, which are both excluded
    cases hread : FieldType.ofDeclared v with
    | error c => exact ⟨c, hread, code_of_ofDeclared hread⟩
    | ok r =>
      obtain ⟨t, b⟩ := r
      rcases (ofDeclared_eq_ok_text hv).mp hread with ⟨-, h⟩ | ⟨-, h⟩
      · exact absurd h (hno t).1
      · exact absurd h (hno t).2

/-- **Which texts are types.** A text reads as a type exactly if it is the name of the type
between blanks, or as optional if it is one wrapper around such a text; every other text is
refused for its type. A wrapper is taken off whatever stands in it, but only one is: a wrapper
in a wrapper is refused, and so is a wrapper around blanks. A text that is accepted has no
brackets, or one pair that matches. -/
theorem texts_accepted (hv : v.asText? = some text) :
    (∀ t b, FieldType.ofDeclared v = .ok (t, b) ↔
      (b = false ∧ Bare text.toList t) ∨ (b = true ∧ Wrapped text.toList t)) ∧
    (Refused v ↔ ∀ t, ¬ Bare text.toList t ∧ ¬ Wrapped text.toList t) ∧
    (∀ w, unwrap v = .ok (w, true) ↔
      ∃ inner, Wraps text.toList inner ∧ w = .str (String.ofList (trim inner))) ∧
    (∀ inner, Wraps text.toList inner → (∃ deeper, Wraps inner deeper) ∨ IsBlankText inner →
      Refused v) ∧
    (∀ t b, FieldType.ofDeclared v = .ok (t, b) → text.toList.filter isBracket = [] ∨
      ∃ brackets ∈ wrapperBrackets, text.toList.filter isBracket = [brackets.1, brackets.2]) := by
  refine ⟨fun t b => ofDeclared_eq_ok_text hv, refused_iff hv, fun w => unwrap_eq_ok_true hv,
    fun inner hwraps hinner => (refused_iff hv).mpr fun t => ⟨hwraps.not_bare, ?_⟩,
    fun t b hread => ?_⟩
  · rw [hwraps.wrapped_iff]
    rcases hinner with ⟨deeper, hdeeper⟩ | hblank
    · exact hdeeper.not_bare
    · exact not_bare_of_isBlankText hblank
  · rcases (ofDeclared_eq_ok_text hv).mp hread with ⟨-, h⟩ | ⟨-, h⟩
    · exact .inl (filter_isBracket_bare h)
    · exact .inr (filter_isBracket_wrapped h)

theorem texts_accepted_option :
    FieldType.ofDeclared (.str " Option < Text > ") = .ok (.text, true) ∧
    Refused (.str "Option[Optional<Text>]") := by
  obtain ⟨hread, -⟩ := texts_accepted (v := .str " Option < Text > ") rfl
  obtain ⟨-, -, -, hnested, -⟩ := texts_accepted (v := .str "Option[Optional<Text>]") rfl
  have hnil := isBlankText_nil
  have hblank : IsBlankText [' '] := List.forall_mem_singleton.mpr (by decide)
  refine ⟨(hread _ _).mpr (.inr ⟨rfl, ?_⟩), hnested "Optional<Text>".toList ?_ (.inl ?_)⟩
  · exact ⟨[' '], "Option", [' '], ('<', '>'), " Text ".toList, [' '], by decide, hblank, hblank,
      hblank, by decide, by decide, by decide, [' '], [' '], hblank, hblank, by decide⟩
  · exact ⟨[], "Option", [], ('[', ']'), [], by decide, hnil, hnil, hnil, by decide, by decide,
      by decide, by decide⟩
  · exact ⟨"Text".toList, [], "Optional", [], ('<', '>'), [], by decide, hnil, hnil, hnil,
      by decide, by decide, by decide, by decide⟩

end Relvar.TypeName
