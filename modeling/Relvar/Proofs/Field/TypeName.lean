/-
What a declared type reads as. The types that are accepted are described by their
form alone: a field type, a class, the name of a type between blanks, and any of
these in one optional wrapper. The reader accepts exactly these, and what it
refuses it refuses for its type.
-/
import Relvar.Field.Extract
import Relvar.Proofs.Outcome
import Mathlib.Data.List.TakeWhile
import Mathlib.Data.List.DropRight

set_option autoImplicit false

namespace Relvar

open Text

/-! ## Trimming -/

/-- A text of blanks alone. -/
def IsBlankText (s : List Char) : Prop := ∀ c ∈ s, isBlank c = true

theorem isBlankText_nil : IsBlankText [] := fun _ hc => absurd hc List.not_mem_nil

theorem isBlankText_takeWhile (s : List Char) : IsBlankText (s.takeWhile isBlank) :=
  fun _ hc => List.mem_takeWhile_imp hc

/-- A text is what trimming leaves of it, between blanks. -/
theorem exists_trim (s : List Char) :
    ∃ pre post, IsBlankText pre ∧ IsBlankText post ∧ s = pre ++ trim s ++ post := by
  refine ⟨s.takeWhile isBlank, ((trimStart s).reverse.takeWhile isBlank).reverse,
    isBlankText_takeWhile s, fun c hc => ?_, ?_⟩
  · exact isBlankText_takeWhile (trimStart s).reverse c (List.mem_reverse.mp hc)
  · have hend : trim s ++ ((trimStart s).reverse.takeWhile isBlank).reverse = trimStart s := by
      rw [trim, trimEnd, ← List.reverse_append, List.takeWhile_append_dropWhile,
        List.reverse_reverse]
    rw [List.append_assoc, hend, trimStart, List.takeWhile_append_dropWhile]

/-- Trimming leaves what stands between blanks, if that neither starts nor ends with
one. -/
theorem trim_between {pre core post : List Char} (hpre : IsBlankText pre)
    (hpost : IsBlankText post) (hhead : ∀ c ∈ core.head?, isBlank c = false)
    (hlast : ∀ c ∈ core.getLast?, isBlank c = false) : trim (pre ++ core ++ post) = core := by
  have hdrop : ∀ {s : List Char}, (∀ c ∈ s.head?, isBlank c = false) →
      s.dropWhile isBlank = s := by
    intro s hs
    cases s with
    | nil => rfl
    | cons c s => simp [hs c rfl]
  have hrev : (post.reverse.dropWhile isBlank) = [] :=
    List.dropWhile_eq_nil_iff.mpr fun c hc => hpost c (List.mem_reverse.mp hc)
  rw [trim, trimStart, List.append_assoc, List.dropWhile_append_of_pos hpre]
  -- with nothing in between, the blanks in front run into the blanks behind
  cases core with
  | nil => simp [trimEnd, List.dropWhile_eq_nil_iff.mpr hpost]
  | cons c core =>
    have hstart : (c :: core ++ post).dropWhile isBlank = c :: core ++ post :=
      hdrop (by simpa using hhead)
    rw [hstart, trimEnd, List.reverse_append, List.dropWhile_append, hrev]
    simp only [List.isEmpty_nil, if_true]
    have hend : ∀ x ∈ (c :: core).reverse.head?, isBlank x = false := by
      rw [List.head?_reverse]
      exact hlast
    rw [hdrop hend, List.reverse_reverse]

/-! ## Forms -/

namespace TypeName

/-- A text that is the name of a type between blanks. -/
def Bare (s : List Char) (t : FieldType) : Prop :=
  ∃ pre post, IsBlankText pre ∧ IsBlankText post ∧ s = pre ++ t.name.toList ++ post

/-- The names of the wrapper. -/
def wrapperNames : List String := ["Optional", "Option"]

/-- The brackets of the wrapper. -/
def wrapperBrackets : List (Char × Char) := [('[', ']'), ('<', '>')]

/-- A text that is one wrapper, between blanks, around the name of a type between
blanks. There may be blanks in front of the opening bracket, and no line ends
inside the brackets. -/
def Wrapped (s : List Char) (t : FieldType) : Prop :=
  ∃ pre word gap brackets inner post,
    s = pre ++ (word.toList ++ (gap ++ brackets.1 :: (inner ++ [brackets.2]))) ++ post ∧
    IsBlankText pre ∧ IsBlankText gap ∧ IsBlankText post ∧
    word ∈ wrapperNames ∧ brackets ∈ wrapperBrackets ∧ '\n' ∉ inner ∧ Bare inner t

/-- A text that is one wrapper, between blanks, around some text that is not empty and
stands on one line. -/
def Wraps (s inner : List Char) : Prop :=
  ∃ pre word gap brackets post,
    s = pre ++ (word.toList ++ (gap ++ brackets.1 :: (inner ++ [brackets.2]))) ++ post ∧
    IsBlankText pre ∧ IsBlankText gap ∧ IsBlankText post ∧
    word ∈ wrapperNames ∧ brackets ∈ wrapperBrackets ∧ inner ≠ [] ∧ '\n' ∉ inner

/-- What a declared type reads as: a field type, and whether it is optional. -/
inductive Reads : Value → FieldType → Bool → Prop
  | fieldType (t : FieldType) : Reads (.semantic t) t false
  | ofClass {c : NamedClass} {t : FieldType} (named : ofClass? c = some t) :
      Reads (.type (.named c)) t false
  | optionalClass {bars : Bool} {members : List TypeForm} {c : NamedClass} {t : FieldType}
      (named : ofClass? c = some t)
      (either : members = [.named c, .named .none] ∨ members = [.named .none, .named c]) :
      Reads (.type (.union bars members)) t true
  | bare {v : Value} {s : String} {t : FieldType} (text : v.asText? = some s)
      (bare : Bare s.toList t) : Reads v t false
  | wrapped {v : Value} {s : String} {t : FieldType} (text : v.asText? = some s)
      (wrapped : Wrapped s.toList t) : Reads v t true

/-! ## Reading text -/

theorem isBlank_head_name (t : FieldType) : ∀ c ∈ t.name.toList.head?, isBlank c = false := by
  intro c hc
  have hall : t.name.toList.head?.all fun c => !isBlank c := by cases t <;> decide
  simpa using (Option.all_eq_true _ _).mp hall c hc

theorem isBlank_getLast_name (t : FieldType) :
    ∀ c ∈ t.name.toList.getLast?, isBlank c = false := by
  intro c hc
  have hall : t.name.toList.getLast?.all fun c => !isBlank c := by cases t <;> decide
  simpa using (Option.all_eq_true _ _).mp hall c hc

theorem bare_iff {s : List Char} {t : FieldType} : Bare s t ↔ trim s = t.name.toList := by
  constructor
  · rintro ⟨pre, post, hpre, hpost, rfl⟩
    exact trim_between hpre hpost (isBlank_head_name t) (isBlank_getLast_name t)
  · intro h
    obtain ⟨pre, post, hpre, hpost, hs⟩ := exists_trim s
    exact ⟨pre, post, hpre, hpost, by rw [← h, ← hs]⟩

theorem bare_name (t : FieldType) : Bare t.name.toList t :=
  ⟨[], [], isBlankText_nil, isBlankText_nil, by simp⟩

/-- What stands between brackets is all but the brackets. -/
theorem enclosed?_eq_some {opening closing : Char} {body inner : List Char} :
    enclosed? opening closing body = some inner ↔
      body = opening :: (inner ++ [closing]) ∧ inner ≠ [] ∧ '\n' ∉ inner := by
  cases body with
  | nil => simp [enclosed?]
  | cons c rest =>
    simp only [enclosed?, Option.ite_none_right_eq_some, Bool.and_eq_true, decide_eq_true_eq,
      Bool.not_eq_true', List.isEmpty_eq_false_iff, List.contains_eq_mem, decide_eq_false_iff_not,
      Option.some.injEq, List.cons.injEq]
    constructor
    · rintro ⟨⟨⟨⟨rfl, hlast⟩, hne⟩, hline⟩, rfl⟩
      refine ⟨⟨rfl, ?_⟩, hne, hline⟩
      -- the last character is not the bracket itself: a single character has nothing behind it
      have hrest : rest ≠ [] := by
        rintro rfl
        simp at hlast
      have hget : rest.getLast hrest = closing := by
        rw [List.getLast?_eq_getLast_of_ne_nil hrest] at hlast
        exact Option.some.inj hlast
      rw [← hget, List.dropLast_append_getLast]
    · rintro ⟨⟨rfl, rfl⟩, hne, hline⟩
      simp [hne, hline]

/-- What follows the name of a wrapper, where blanks or a bracket come next. -/
theorem afterWrapper?_append {word : String} {rest : List Char} (hword : word ∈ wrapperNames)
    (hrest : ∀ c ∈ rest.head?, c ≠ 'a') : afterWrapper? (word.toList ++ rest) = some rest := by
  simp only [wrapperNames, List.mem_cons, List.not_mem_nil, or_false] at hword
  rcases hword with rfl | rfl
  · simp [afterWrapper?, afterWord?]
  · cases rest with
    | nil => decide
    | cons c rest =>
      have hc : c ≠ 'a' := hrest c rfl
      simp [afterWrapper?, afterWord?, hc.symm]

theorem afterWrapper?_eq_some {s rest : List Char} (h : afterWrapper? s = some rest) :
    ∃ word ∈ wrapperNames, s = word.toList ++ rest := by
  have hword : ∀ {word : List Char}, afterWord? word s = some rest → s = word ++ rest := by
    intro word hw
    simp only [afterWord?, Option.ite_none_right_eq_some, Option.some.injEq] at hw
    obtain ⟨hpre, rfl⟩ := hw
    exact (List.prefix_iff_eq_append.mp (List.isPrefixOf_iff_prefix.mp hpre)).symm
  rcases Option.or_eq_some_iff.mp h with h | ⟨-, h⟩
  · exact ⟨"Optional", by simp [wrapperNames], hword h⟩
  · exact ⟨"Option", by simp [wrapperNames], hword h⟩

theorem isBlank_brackets {brackets : Char × Char} (h : brackets ∈ wrapperBrackets) :
    isBlank brackets.1 = false ∧ isBlank brackets.2 = false ∧ brackets.1 ≠ 'a' := by
  simp only [wrapperBrackets, List.mem_cons, List.not_mem_nil, or_false] at h
  rcases h with rfl | rfl <;> decide

/-- The brackets are tried in turn; a text that opens with one pair is not in the
other. -/
theorem enclosed?_or {body inner : List Char} :
    ((enclosed? '[' ']' body).or (enclosed? '<' '>' body)) = some inner ↔
      ∃ brackets ∈ wrapperBrackets, body = brackets.1 :: (inner ++ [brackets.2]) ∧
        inner ≠ [] ∧ '\n' ∉ inner := by
  simp only [Option.or_eq_some_iff, wrapperBrackets, List.mem_cons, List.not_mem_nil, or_false,
    exists_eq_or_imp, exists_eq_left, ← enclosed?_eq_some]
  constructor
  · rintro (h | ⟨-, h⟩)
    · exact .inl h
    · exact .inr h
  · rintro (h | h)
    · exact .inl h
    · have hbody := (enclosed?_eq_some.mp h).1
      exact .inr ⟨by simp [enclosed?, hbody], h⟩

section Wrappers

variable {pre gap inner post rest : List Char} {word : String} {brackets : Char × Char}

/-- The blanks around a wrapper are the ones that trimming removes. -/
theorem trim_wrapper (hpre : IsBlankText pre) (hpost : IsBlankText post)
    (hword : word ∈ wrapperNames) (hbrackets : brackets ∈ wrapperBrackets) :
    trim (pre ++ (word.toList ++ (gap ++ brackets.1 :: (inner ++ [brackets.2]))) ++ post) =
      word.toList ++ (gap ++ brackets.1 :: (inner ++ [brackets.2])) := by
  obtain ⟨c, cs, hcs, hc⟩ : ∃ c cs, word.toList = c :: cs ∧ isBlank c = false := by
    simp only [wrapperNames, List.mem_cons, List.not_mem_nil, or_false] at hword
    rcases hword with rfl | rfl <;> exact ⟨'O', _, rfl, by decide⟩
  have hend : word.toList ++ (gap ++ brackets.1 :: (inner ++ [brackets.2])) =
      (word.toList ++ (gap ++ brackets.1 :: inner)) ++ [brackets.2] := by simp
  -- a wrapper starts with its word and ends with its bracket, and neither is blank
  refine trim_between hpre hpost (fun d hd => ?_) fun d hd => ?_
  · rw [hcs] at hd
    cases hd
    exact hc
  · rw [hend, List.getLast?_concat] at hd
    cases hd
    exact (isBlank_brackets hbrackets).2.1

theorem afterWrapper?_gap (hgap : IsBlankText gap) (hword : word ∈ wrapperNames)
    (hbrackets : brackets ∈ wrapperBrackets) :
    afterWrapper? (word.toList ++ (gap ++ brackets.1 :: rest)) =
      some (gap ++ brackets.1 :: rest) := by
  refine afterWrapper?_append hword fun c hc => ?_
  cases gap with
  | nil =>
    cases hc
    exact (isBlank_brackets hbrackets).2.2
  | cons g gap =>
    cases hc
    rintro rfl
    exact absurd (hgap _ List.mem_cons_self) (by decide)

theorem trimStart_gap (hgap : IsBlankText gap) (hbrackets : brackets ∈ wrapperBrackets) :
    trimStart (gap ++ brackets.1 :: rest) = brackets.1 :: rest := by
  rw [trimStart, List.dropWhile_append_of_pos hgap,
    List.dropWhile_cons_of_neg (by simp [(isBlank_brackets hbrackets).1])]

end Wrappers

/-- The text inside a wrapper, without the blanks at its ends. -/
theorem unwrapText?_eq_some {s w : List Char} :
    unwrapText? s = some w ↔ ∃ inner, Wraps s inner ∧ w = trim inner := by
  simp only [unwrapText?, Option.bind_eq_bind, Option.bind_eq_some_iff, enclosed?_or,
    Option.pure_def, Option.some.injEq]
  constructor
  · rintro ⟨rest, hrest, inner, ⟨brackets, hbrackets, hbody, hne, hline⟩, rfl⟩
    obtain ⟨word, hword, htrim⟩ := afterWrapper?_eq_some hrest
    -- the blanks that trimming took away are put back
    obtain ⟨pre, post, hpre, hpost, hs⟩ := exists_trim s
    refine ⟨inner, ⟨pre, word, rest.takeWhile isBlank, brackets, post, ?_, hpre,
      isBlankText_takeWhile rest, hpost, hword, hbrackets, hne, hline⟩, rfl⟩
    rw [← hbody, trimStart, List.takeWhile_append_dropWhile, ← htrim, ← hs]
  · rintro ⟨inner, ⟨pre, word, gap, brackets, post, rfl, hpre, hgap, hpost, hword, hbrackets,
      hne, hline⟩, rfl⟩
    refine ⟨gap ++ brackets.1 :: (inner ++ [brackets.2]), ?_, inner,
      ⟨brackets, hbrackets, trimStart_gap hgap hbrackets, hne, hline⟩, rfl⟩
    rw [trim_wrapper hpre hpost hword hbrackets, afterWrapper?_gap hgap hword hbrackets]

theorem not_bare_nil {t : FieldType} : ¬ Bare [] t := by
  rw [bare_iff]
  cases t <;> decide

/-- A wrapped name is a wrapper around a text that is the name between blanks. -/
theorem wrapped_iff_wraps {s : List Char} {t : FieldType} :
    Wrapped s t ↔ ∃ inner, Wraps s inner ∧ Bare inner t := by
  constructor
  · rintro ⟨pre, word, gap, brackets, inner, post, hs, hpre, hgap, hpost, hword, hbrackets,
      hline, hinner⟩
    -- a name is not empty, so brackets with nothing in between hold none
    have hne : inner ≠ [] := by
      rintro rfl
      exact not_bare_nil hinner
    exact ⟨inner, ⟨pre, word, gap, brackets, post, hs, hpre, hgap, hpost, hword, hbrackets, hne,
      hline⟩, hinner⟩
  · rintro ⟨inner, ⟨pre, word, gap, brackets, post, hs, hpre, hgap, hpost, hword, hbrackets, -,
      hline⟩, hinner⟩
    exact ⟨pre, word, gap, brackets, inner, post, hs, hpre, hgap, hpost, hword, hbrackets, hline,
      hinner⟩

theorem wrapped_iff {s : List Char} {t : FieldType} :
    Wrapped s t ↔ unwrapText? s = some t.name.toList := by
  rw [wrapped_iff_wraps, unwrapText?_eq_some]
  exact exists_congr fun inner => and_congr_right' (bare_iff.trans eq_comm)

/-- The name of a type is no wrapper. -/
theorem unwrapText?_of_bare {s : List Char} {t : FieldType} (h : Bare s t) :
    unwrapText? s = none := by
  rw [unwrapText?, bare_iff.mp h]
  cases t <;> decide

/-! ## Reading values -/

theorem ofName?_eq_some {s : String} {t : FieldType} :
    FieldType.ofName? s = some t ↔ s = t.name := by
  constructor
  · intro h
    exact (FieldType.name_of_ofName? h).symm
  · rintro rfl
    exact FieldType.ofName?_name t

theorem resolve_eq_ok {v : Value} {t : FieldType} : resolve v = .ok t ↔ resolve? v = some t := by
  unfold resolve
  cases resolve? v <;> simp

/-- A declared type is read in two steps: the wrapper is taken off, and what is left
names a type. -/
theorem ofDeclared_eq_ok_iff {v : Value} {t : FieldType} {b : Bool} :
    FieldType.ofDeclared v = .ok (t, b) ↔
      ∃ inner, unwrap v = .ok (inner, b) ∧ resolve? inner = some t := by
  unfold FieldType.ofDeclared
  cases hu : unwrap v with
  | error c => simp [bind, Except.bind]
  | ok u =>
    obtain ⟨inner, nullable⟩ := u
    cases hr : resolve inner with
    | error c =>
      have hnone : resolve? inner ≠ some t := fun h => by simp [resolve_eq_ok.mpr h] at hr
      simp only [bind, Except.bind, hr, reduceCtorEq, Except.ok.injEq, Prod.mk.injEq, false_iff]
      rintro ⟨_, ⟨rfl, -⟩, h⟩
      exact hnone h
    | ok t' =>
      have hsome := resolve_eq_ok.mp hr
      simp only [bind, Except.bind, hr, pure, Except.pure, Except.ok.injEq, Prod.mk.injEq]
      constructor
      · rintro ⟨rfl, rfl⟩
        exact ⟨inner, ⟨rfl, rfl⟩, hsome⟩
      · rintro ⟨_, ⟨rfl, rfl⟩, h⟩
        exact ⟨Option.some.inj (hsome.symm.trans h), rfl⟩

/-- How the wrapper is taken off a text. -/
def unwrapText (s : String) : Value × Bool :=
  match unwrapText? s.toList with
  | some inner => (.str (String.ofList inner), true)
  | none => (.str (trimmed s), false)

/-- A text reads as the name of a type in it: between blanks, or in a wrapper. -/
theorem resolve_unwrapText {s : String} {t : FieldType} {b : Bool} :
    ((unwrapText s).2 = b ∧ resolve? (unwrapText s).1 = some t) ↔
      (b = false ∧ Bare s.toList t) ∨ (b = true ∧ Wrapped s.toList t) := by
  have hstr : ∀ w : List Char,
      resolve? (.str (String.ofList w)) = some t ↔ w = t.name.toList := by
    intro w
    simp only [resolve?, Value.asText?, Option.bind_some, ofName?_eq_some]
    exact ⟨fun h => by rw [← h, String.toList_ofList], fun h => by rw [h, String.ofList_toList]⟩
  unfold unwrapText
  cases hw : unwrapText? s.toList with
  | some w =>
    -- a text in a wrapper is no bare name, so the two ways to read do not meet
    have hbare : ¬ Bare s.toList t := fun h => by simp [unwrapText?_of_bare h] at hw
    simp only [hstr, wrapped_iff, hw, Option.some.injEq, hbare, and_false, false_or]
    tauto
  | none =>
    simp only [trimmed, hstr, ← bare_iff, wrapped_iff, hw, reduceCtorEq, and_false, or_false]
    tauto

/-- The wrapper is taken off a text by its form, off a union of a class and nothing by
its members, and off nothing else. -/
theorem unwrap_text {v : Value} {s : String} (hv : v.asText? = some s)
    (hsemantic : ∀ t, v ≠ .semantic t) : unwrap v = .ok (unwrapText s) := by
  cases v with
  | semantic t => exact absurd rfl (hsemantic t)
  | str s' =>
    obtain rfl : s' = s := Option.some.inj hv
    cases hw : unwrapText? s'.toList <;> simp [unwrap, unwrapText, Value.asText?, hw]
  | member e base w => cases hw : unwrapText? s.toList <;> simp [unwrap, unwrapText, hv, hw]
  | _ => simp [Value.asText?] at hv

theorem same_none_iff {m : TypeForm} : m.same (.named .none) = true ↔ m = .named .none := by
  cases m <;> simp [TypeForm.same]

theorem same_none_eq_false_iff {m : TypeForm} :
    m.same (.named .none) = false ↔ m ≠ .named .none := by
  rw [← Bool.not_eq_true, same_none_iff]

theorem resolve?_type {m : TypeForm} {t : FieldType} :
    resolve? (.type m) = some t ↔ ∃ c, m = .named c ∧ ofClass? c = some t := by
  cases m <;> simp [resolve?, Value.asText?]

/-- A union has two members and one of them that is not the empty class exactly if it is of that
member and the empty class, in either order. -/
theorem members_iff {ms : List TypeForm} {m : TypeForm} :
    (ms.length = 2 ∧ ms.filter (fun m => !m.same (.named .none)) = [m]) ↔
      m ≠ .named .none ∧ (ms = [m, .named .none] ∨ ms = [.named .none, m]) := by
  constructor
  · rintro ⟨hlen, hfilter⟩
    obtain ⟨x, y, rfl⟩ := List.length_eq_two.mp hlen
    have hm : m ≠ .named .none := by
      have hmem : m ∈ [x, y].filter fun m => !m.same (.named .none) := by simp [hfilter]
      simpa [same_none_eq_false_iff] using (List.mem_filter.mp hmem).2
    -- which of the two members is the empty class decides the order
    by_cases hx : x.same (.named .none) <;> by_cases hy : y.same (.named .none) <;>
      simp_all [same_none_iff]
  · rintro ⟨hm, rfl | rfl⟩
    all_goals
      have hsame := same_none_eq_false_iff.mpr hm
      have hnone : (TypeForm.named .none).same (.named .none) = true := same_none_iff.mpr rfl
      simp [hsame, hnone]

/-- The wrapper is taken off a union that has two members, one of them the empty
class. -/
theorem unwrap_union {bars : Bool} {ms : List TypeForm} {inner : Value} {b : Bool} :
    unwrap (.type (.union bars ms)) = .ok (inner, b) ↔
      ∃ m, m ≠ .named .none ∧ (ms = [m, .named .none] ∨ ms = [.named .none, m]) ∧
        inner = .type m ∧ b = true := by
  rw [unwrap]
  split
  · next m hlen hfilter =>
    simp only [Except.ok.injEq, Prod.mk.injEq]
    constructor
    · rintro ⟨rfl, rfl⟩
      obtain ⟨hm, hms⟩ := members_iff.mp ⟨hlen, hfilter⟩
      exact ⟨m, hm, hms, rfl, rfl⟩
    · rintro ⟨m', hm', hms', rfl, rfl⟩
      -- the member that is found is the only one there is
      obtain ⟨-, hfilter'⟩ := members_iff.mpr ⟨hm', hms'⟩
      rw [hfilter] at hfilter'
      exact ⟨by rw [List.singleton_inj.mp hfilter'], rfl⟩
  · next hno =>
    simp only [reduceCtorEq, false_iff]
    rintro ⟨m, hm, hms, -, -⟩
    obtain ⟨hlen, hfilter⟩ := members_iff.mpr ⟨hm, hms⟩
    exact hno m hlen hfilter

/-- A value that is text reads as what its text says. -/
theorem reads_text {v : Value} {s : String} {t : FieldType} {b : Bool} (hv : v.asText? = some s) :
    Reads v t b ↔ (b = false ∧ Bare s.toList t) ∨ (b = true ∧ Wrapped s.toList t) := by
  constructor
  · intro h
    cases h with
    | fieldType =>
      obtain rfl : t.name = s := Option.some.inj hv
      exact .inl ⟨rfl, bare_name t⟩
    | ofClass named => simp [Value.asText?] at hv
    | optionalClass named either => simp [Value.asText?] at hv
    | bare text bare => exact .inl ⟨rfl, by rwa [Option.some.inj (hv.symm.trans text)]⟩
    | wrapped text wrapped => exact .inr ⟨rfl, by rwa [Option.some.inj (hv.symm.trans text)]⟩
  · rintro (⟨rfl, h⟩ | ⟨rfl, h⟩)
    · exact .bare hv h
    · exact .wrapped hv h

/-- The name of a type, where a field type stands for it. -/
theorem name_inj {t t' : FieldType} (h : t.name = t'.name) : t = t' := by
  rw [← Option.some.injEq, ← FieldType.ofName?_name t, h, FieldType.ofName?_name]

/-- A field type reads as itself, and so does its name, which is bare text. -/
theorem ofDeclared_semantic {t t' : FieldType} {b : Bool} :
    FieldType.ofDeclared (.semantic t') = .ok (t, b) ↔ Reads (.semantic t') t b := by
  have hnone : unwrapText? t'.name.toList = none := unwrapText?_of_bare (bare_name t')
  have htrim : trimmed t'.name = t'.name := by cases t' <;> decide
  -- a field type is text as well, so its readings are the ones of its name
  rw [ofDeclared_eq_ok_iff, reads_text rfl, ← resolve_unwrapText]
  simp only [unwrap, Except.ok.injEq, Prod.mk.injEq, unwrapText, hnone, htrim]
  constructor
  · rintro ⟨_, ⟨rfl, rfl⟩, h⟩
    obtain rfl : t' = t := by simpa [resolve?] using h
    exact ⟨rfl, by simp [resolve?, Value.asText?, FieldType.ofName?_name]⟩
  · rintro ⟨rfl, h⟩
    have hname : t'.name = t.name := by
      simpa [resolve?, Value.asText?, ofName?_eq_some] using h
    exact ⟨_, ⟨rfl, rfl⟩, by simp [resolve?, name_inj hname]⟩

/-- Other text reads as what is left of it without its wrapper. -/
theorem ofDeclared_text {v : Value} {s : String} {t : FieldType} {b : Bool}
    (hv : v.asText? = some s) (hsemantic : ∀ t', v ≠ .semantic t') :
    FieldType.ofDeclared v = .ok (t, b) ↔ Reads v t b := by
  rw [ofDeclared_eq_ok_iff, reads_text hv, ← resolve_unwrapText, unwrap_text hv hsemantic]
  simp only [Except.ok.injEq]
  constructor
  · rintro ⟨inner, h, hr⟩
    rw [h]
    exact ⟨rfl, hr⟩
  · rintro ⟨hb, hr⟩
    exact ⟨_, Prod.ext rfl hb, hr⟩

/-- A value that is no text reads as a type if it is a class, or a union of one and nothing. -/
theorem ofDeclared_other {v : Value} {t : FieldType} {b : Bool} (hv : v.asText? = none) :
    FieldType.ofDeclared v = .ok (t, b) ↔ Reads v t b := by
  rw [ofDeclared_eq_ok_iff]
  constructor
  · rintro ⟨inner, hu, hr⟩
    cases v with
    | type form =>
      cases form with
      | union bars ms =>
        obtain ⟨m, hm, hms, rfl, rfl⟩ := unwrap_union.mp hu
        obtain ⟨c, rfl, hc⟩ := resolve?_type.mp hr
        exact .optionalClass hc hms
      | _ =>
        obtain ⟨rfl, rfl⟩ : inner = _ ∧ b = false := by
          simpa [unwrap, Value.asText?, eq_comm] using hu
        obtain ⟨c, hform, hc⟩ := resolve?_type.mp hr
        exact hform ▸ .ofClass hc
    | semantic t' => simp [Value.asText?] at hv
    | _ =>
      -- neither a wrapper is taken off nor a type found
      obtain ⟨rfl, rfl⟩ : inner = _ ∧ b = false := by
        simpa [unwrap, hv, eq_comm] using hu
      simp [resolve?, hv] at hr
  · intro h
    cases h with
    | fieldType => simp [Value.asText?] at hv
    | @ofClass c t named =>
      exact ⟨.type (.named c), by simp [unwrap, Value.asText?], by simpa [resolve?] using named⟩
    | @optionalClass bars ms c t named either =>
      have hc : TypeForm.named c ≠ .named .none := by
        rintro h
        cases h
        simp [ofClass?] at named
      exact ⟨_, unwrap_union.mpr ⟨_, hc, either, rfl, rfl⟩, by simpa [resolve?] using named⟩
    | bare text => simp [hv] at text
    | wrapped text => simp [hv] at text

/-- **What a declared type reads as.** The reader accepts the forms of types and
nothing else. -/
theorem ofDeclared_eq_ok {v : Value} {t : FieldType} {b : Bool} :
    FieldType.ofDeclared v = .ok (t, b) ↔ Reads v t b := by
  by_cases hsemantic : ∃ t', v = .semantic t'
  · obtain ⟨t', rfl⟩ := hsemantic
    exact ofDeclared_semantic
  · cases hv : v.asText? with
    | some s => exact ofDeclared_text hv fun t' h => hsemantic ⟨t', h⟩
    | none => exact ofDeclared_other hv

/-- A wrapper that is refused is refused for its type. -/
theorem code_of_unwrap {v : Value} {c : Cause} (h : unwrap v = .error c) :
    c.code = .unsupportedFieldType := by
  unfold unwrap at h
  split at h
  · cases h
  · dsimp only at h
    split at h <;> cases h
    rfl
  · split at h
    · split at h <;> cases h
    · cases h

/-- A type without a wrapper that is refused is refused for its type. -/
theorem code_of_resolve {v : Value} {c : Cause} (h : resolve v = .error c) :
    c.code = .unsupportedFieldType := by
  unfold resolve at h
  split at h <;> cases h
  rfl

/-- A declared type that is refused is refused for its type. -/
theorem code_of_ofDeclared {v : Value} {c : Cause} (h : FieldType.ofDeclared v = .error c) :
    c.code = .unsupportedFieldType := by
  unfold FieldType.ofDeclared at h
  rcases Except.bind_eq_error.mp h with h | ⟨⟨inner, b⟩, -, h⟩
  · exact code_of_unwrap h
  · rcases Except.bind_eq_error.mp h with h | ⟨t, -, h⟩
    · exact code_of_resolve h
    · cases h

end TypeName

end Relvar
