/-
The names of constants. If the name of a model is plain, the prefix of its constants is an
identifier: the steps that make it keep characters of words, low lines are stripped from its
ends, and a word stands in front of it where it would be empty or start with a digit. The
endings of the constants tell them apart, since none of them ends another one, so no two
models with different prefixes have a constant in common.
-/
import Relvar.Generated.Constant
import Relvar.Proofs.Source.Lexeme
import Mathlib.Data.List.DropRight
import Mathlib.Data.List.Nodup

set_option autoImplicit false

namespace Relvar.Generated

open Relvar.Source (IsName reserved)
open Relvar.Source.Scanner (isNameStart isNameChar)

/-! ## Plain characters -/

/-- Whether a character is a blank or has a glyph, and is one of the first 128. -/
def IsPlain (c : Char) : Prop := ' ' ≤ c ∧ c ≤ '~'

instance : DecidablePred IsPlain := fun c => inferInstanceAs (Decidable (' ' ≤ c ∧ c ≤ '~'))

theorem IsPlain.toNat_lt {c : Char} (h : IsPlain c) : c.toNat < 128 := by
  have hle : c.toNat ≤ '~'.toNat := h.2
  have htilde : '~'.toNat = 126 := rfl
  omega

theorem IsPlain.le_toNat {c : Char} (h : IsPlain c) : 32 ≤ c.toNat := h.1

/-- What holds of each of the first 128 characters. -/
theorem narrow_forall {P : Char → Prop} (h : ∀ n < 128, P (Char.ofNat n)) {c : Char}
    (hc : c.toNat < 128) : P c := by
  have hn := h c.toNat hc
  rwa [Char.ofNat_toNat] at hn

theorem isNameChar_of_isWord {c : Char} (hc : c.toNat < 128) (h : Text.isWord c = true) :
    isNameChar c = true :=
  narrow_forall (P := fun c => Text.isWord c = true → isNameChar c = true) (by decide) hc h

/-- A character of a name that is no digit and no low line is a letter, and so is its capital. -/
theorem isNameStart_toUpper {c : Char} (hc : c.toNat < 128) (h : isNameChar c = true)
    (hline : c ≠ '_') (hdigit : Text.isDigit c = false) : isNameStart c.toUpper = true :=
  narrow_forall (P := fun c => isNameChar c = true → c ≠ '_' → Text.isDigit c = false →
    isNameStart c.toUpper = true) (by decide) hc h hline hdigit

theorem isNameChar_toUpper {c : Char} (hc : c.toNat < 128) (h : isNameChar c = true) :
    isNameChar c.toUpper = true :=
  narrow_forall (P := fun c => isNameChar c = true → isNameChar c.toUpper = true) (by decide) hc h

/-! ## Prefixes -/

theorem mem_separateWords {s : List Char} {c : Char} (h : c ∈ separateWords s) :
    c ∈ s ∨ c = '_' := by
  induction s with
  | nil => exact .inl h
  | cons a s ih =>
    -- a low line is put between two characters, so the next one has to be seen
    cases s with
    | nil => exact .inl h
    | cons b s =>
      have hrest (hc : c ∈ separateWords (b :: s)) : c ∈ a :: b :: s ∨ c = '_' :=
        (ih hc).imp_left (List.mem_cons_of_mem _)
      rw [separateWords] at h
      split at h
      · rcases List.mem_cons.mp h with rfl | h
        · exact .inl List.mem_cons_self
        · rcases List.mem_cons.mp h with rfl | h
          · exact .inr rfl
          · exact hrest h
      · rcases List.mem_cons.mp h with rfl | h
        · exact .inl List.mem_cons_self
        · exact hrest h

theorem mem_joinWords {s : List Char} {c : Char} (h : c ∈ joinWords s) :
    (c ∈ s ∧ Text.isWord c = true) ∨ c = '_' := by
  induction s with
  | nil => cases h
  | cons a s ih =>
    have hrest (hc : c ∈ joinWords s) : (c ∈ a :: s ∧ Text.isWord c = true) ∨ c = '_' :=
      (ih hc).imp_left fun ⟨hmem, hword⟩ => ⟨List.mem_cons_of_mem _ hmem, hword⟩
    by_cases ha : Text.isWord a = true
    · have hjoin : joinWords (a :: s) = a :: joinWords s := by simp [joinWords, ha]
      rw [hjoin] at h
      rcases List.mem_cons.mp h with rfl | h
      · exact .inl ⟨List.mem_cons_self, ha⟩
      · exact hrest h
    -- of several characters between two words only the last becomes a low line
    · have hjoin : joinWords (a :: s) = '_' :: joinWords s ∨ joinWords (a :: s) = joinWords s := by
        cases s with
        | nil => exact .inl (if_neg ha)
        | cons b s =>
          by_cases hb : Text.isWord b = true
          · exact .inl (by simp [joinWords, ha, hb])
          · exact .inr (by simp [joinWords, ha, hb])
      rcases hjoin with hjoin | hjoin
      · rw [hjoin] at h
        rcases List.mem_cons.mp h with rfl | h
        · exact .inr rfl
        · exact hrest h
      · rw [hjoin] at h
        exact hrest h

/-- What is left of a text without the low lines at its ends does not start with one. -/
theorem stripLines_cons {s v : List Char} {c : Char} (h : stripLines s = c :: v) :
    c ≠ '_' ∧ ∀ d ∈ c :: v, d ∈ s := by
  have hstart : stripLines s <+: s.dropWhile (· = '_') := List.rdropWhile_prefix _ _
  obtain ⟨w, hw⟩ := h ▸ hstart
  refine ⟨?_, fun d hd => ?_⟩
  · have hhead := List.head?_dropWhile_not (· = '_') s
    rw [← hw] at hhead
    simpa using hhead
  · exact (List.dropWhile_sublist _).mem (hw ▸ List.mem_append_left w hd)

/-- The words of a name: what its prefix is the capital form of. -/
def prefixWords (model : String) : List Char :=
  let words := stripLines (joinWords (separateWords model.toList))
  if needsWord words then "MODEL_".toList ++ words else words

variable {model : String}

/-- The characters of the words of a plain name. -/
theorem mem_stripped (hmodel : ∀ c ∈ model.toList, IsPlain c) {d : Char}
    (hd : d ∈ joinWords (separateWords model.toList)) :
    d.toNat < 128 ∧ isNameChar d = true := by
  rcases mem_joinWords hd with ⟨hmem, hword⟩ | rfl
  · have hnarrow : d.toNat < 128 := by
      rcases mem_separateWords hmem with hmem | rfl
      · exact (hmodel d hmem).toNat_lt
      · decide
    exact ⟨hnarrow, isNameChar_of_isWord hnarrow hword⟩
  · exact ⟨by decide, by decide⟩

/-- The word in front of a prefix that cannot stand on its own. -/
theorem mem_frontWord {d : Char} (hd : d ∈ "MODEL_".toList) :
    d.toNat < 128 ∧ isNameChar d = true := by
  have hall : "MODEL_".toList.all fun d => d.toNat < 128 && isNameChar d := by decide
  simpa using List.all_eq_true.mp hall d hd

/-- The words of a plain name could be those of an identifier, and their first character is
neither a digit nor a low line. -/
theorem prefixWords_cons (hmodel : ∀ c ∈ model.toList, IsPlain c) :
    ∃ c v, prefixWords model = c :: v ∧ c ≠ '_' ∧ Text.isDigit c = false ∧
      ∀ d ∈ c :: v, d.toNat < 128 ∧ isNameChar d = true := by
  rcases hwords : stripLines (joinWords (separateWords model.toList)) with _ | ⟨c, v⟩
  · refine ⟨'M', "ODEL_".toList, ?_, by decide, by decide, fun d => mem_frontWord⟩
    rw [prefixWords, hwords]
    rfl
  · obtain ⟨hline, hmem⟩ := stripLines_cons hwords
    have hall : ∀ d ∈ c :: v, d.toNat < 128 ∧ isNameChar d = true := fun d hd =>
      mem_stripped hmodel (hmem d hd)
    -- the word that is put in front keeps the digit from being the first character
    by_cases hdigit : Text.isDigit c = true
    · refine ⟨'M', "ODEL_".toList ++ c :: v, ?_, by decide, by decide, fun d hd => ?_⟩
      · rw [prefixWords, hwords]
        exact if_pos hdigit
      · rw [← List.cons_append] at hd
        exact (List.mem_append.mp hd).elim mem_frontWord (hall d)
    · refine ⟨c, v, ?_, hline, by simpa using hdigit, hall⟩
      rw [prefixWords, hwords]
      exact if_neg hdigit

/-- Capitals of the first 128 characters. -/
theorem upper_narrow {s : List Char} (h : ∀ c ∈ s, c.toNat < 128) :
    Text.upper s = s.map Char.toUpper := by
  induction s with
  | nil => rfl
  | cons c s ih =>
    obtain ⟨hc, hs⟩ := List.forall_mem_cons.mp h
    have hchars : Text.upperChars c = [c.toUpper] := if_pos hc
    rw [Text.upper, List.flatMap_cons, hchars, ← Text.upper, ih hs]
    rfl

/-- **The prefix of a plain name is an identifier.** -/
theorem constantPrefix_cons (hmodel : ∀ c ∈ model.toList, IsPlain c) :
    ∃ c v, (constantPrefix model).toList = c :: v ∧ isNameStart c = true ∧
      ∀ d ∈ v, isNameChar d = true := by
  obtain ⟨c, v, hwords, hline, hdigit, hall⟩ := prefixWords_cons hmodel
  obtain ⟨⟨hnarrow, hc⟩, hv⟩ := List.forall_mem_cons.mp hall
  refine ⟨c.toUpper, v.map Char.toUpper, ?_, isNameStart_toUpper hnarrow hc hline hdigit, ?_⟩
  · have hupper : (constantPrefix model).toList = Text.upper (prefixWords model) :=
      String.toList_ofList
    rw [hupper, hwords, upper_narrow fun d hd => (hall d hd).1]
    rfl
  · intro d hd
    obtain ⟨e, he, rfl⟩ := List.mem_map.mp hd
    exact isNameChar_toUpper (hv e he).1 (hv e he).2

/-! ## Constants -/

/-- What the constants of a model end in. -/
def endings : List String := ["NAME", "SCHEMA", "PK", "CREATE_ARGS", "UPDATE_ARGS", "DELETE"]

/-- The name of a constant. -/
def constant (stem ending : String) : String := stem ++ "_" ++ ending

theorem toList_constant (stem ending : String) :
    (constant stem ending).toList = stem.toList ++ '_' :: ending.toList := by
  simp [constant]

theorem isNameChar_of_ending {ending : String} (h : ending ∈ endings) {d : Char}
    (hd : d ∈ '_' :: ending.toList) : isNameChar d = true := by
  have hall : endings.all fun e => ('_' :: e.toList).all isNameChar := by decide
  exact List.all_eq_true.mp (List.all_eq_true.mp hall ending h) d hd

/-- Whether a text ends in a capital. -/
def endsInCapital (s : List Char) : Bool := s.getLast?.any Char.isUpper

theorem endsInCapital_constant (stem : String) {ending : String} (h : ending ∈ endings) :
    endsInCapital (constant stem ending).toList = true := by
  have hall : endings.all fun e => endsInCapital e.toList := by decide
  obtain ⟨c, hc, hupper⟩ := (Option.any_eq_true _ _).mp (List.all_eq_true.mp hall ending h)
  have hlast : (stem.toList ++ '_' :: ending.toList).getLast? = some c := by
    rw [List.getLast?_append, List.getLast?_cons, hc]
    rfl
  rw [toList_constant, endsInCapital, hlast]
  exact hupper

/-- The constants of a model with a plain name are identifiers. -/
theorem isName_constant (hmodel : ∀ c ∈ model.toList, IsPlain c) {ending : String}
    (hending : ending ∈ endings) : IsName (constant (constantPrefix model) ending) where
  chars := by
    obtain ⟨c, v, hprefix, hc, hv⟩ := constantPrefix_cons hmodel
    refine ⟨c, v ++ '_' :: ending.toList, ?_, hc, fun d hd => ?_⟩
    · rw [toList_constant, hprefix, List.cons_append]
    · exact (List.mem_append.mp hd).elim (hv d) (isNameChar_of_ending hending)
  free := by
    -- a constant ends in a capital, a reserved word does not
    intro hmem
    have hall : reserved.all fun w => !endsInCapital w.toList := by decide
    have hsmall := List.all_eq_true.mp hall _ hmem
    rw [endsInCapital_constant _ hending] at hsmall
    cases hsmall

/-- No ending ends another one, so a constant is made in one way. -/
theorem constant_inj {stem stem' ending ending' : String} (he : ending ∈ endings)
    (he' : ending' ∈ endings) (h : constant stem ending = constant stem' ending') :
    stem = stem' ∧ ending = ending' := by
  have hall : ∀ e ∈ endings, ∀ e' ∈ endings, '_' :: e.toList <:+ '_' :: e'.toList → e = e' := by
    decide
  have hlists := congrArg String.toList h
  rw [toList_constant, toList_constant] at hlists
  have hends : '_' :: ending.toList <:+ stem'.toList ++ '_' :: ending'.toList :=
    hlists ▸ List.suffix_append _ _
  have hsame : ending = ending' := by
    -- both endings are at the end of one text, so one of them ends the other
    rcases List.suffix_or_suffix_of_suffix hends (List.suffix_append _ _) with hsuffix | hsuffix
    · exact hall ending he ending' he' hsuffix
    · exact (hall ending' he' ending he hsuffix).symm
  subst hsame
  exact ⟨String.toList_inj.mp (List.append_cancel_right hlists), rfl⟩

theorem isName_models : IsName "MODELS" where
  chars := by
    have hall : "ODELS".toList.all isNameChar := by decide
    exact ⟨'M', "ODELS".toList, rfl, by decide, List.all_eq_true.mp hall⟩
  free := by decide

/-- The table of all models is none of the constants. -/
theorem constant_ne_models (stem ending : String) : constant stem ending ≠ "MODELS" := by
  intro h
  have hline : '_' ∈ (constant stem ending).toList := by simp [toList_constant]
  rw [h] at hline
  exact absurd hline (by decide)

/-! ## Shared prefixes -/

/-- No prefix is shared if and only if no two are the same. -/
theorem sharedPrefixes_isEmpty_iff {ps : List String} :
    (sharedPrefixes ps).isEmpty = true ↔ ps.Nodup := by
  -- a prefix is shared if it is counted more than once, and sorting keeps what is counted
  have hcounts : ps.filter (fun p => 1 < ps.count p) = [] ↔ ps.Nodup := by
    rw [List.nodup_iff_count_le_one, List.filter_eq_nil_iff]
    refine ⟨fun h p => ?_, fun h p _ => ?_⟩
    · by_cases hp : p ∈ ps
      · simpa using h p hp
      · rw [List.count_eq_zero_of_not_mem hp]
        exact Nat.zero_le 1
    · simpa using h p
  rw [← hcounts, sharedPrefixes, List.isEmpty_iff]
  refine ⟨fun h => ?_, fun h => ?_⟩
  · have hperm := List.mergeSort_perm (ps.filter fun p => 1 < ps.count p).eraseDups (· ≤ ·)
    rw [h] at hperm
    have hsorted := List.perm_nil.mp hperm.symm
    cases hshared : ps.filter fun p => 1 < ps.count p with
    | nil => rfl
    | cons p qs =>
      rw [hshared, List.eraseDups_cons] at hsorted
      cases hsorted
  · rw [h, List.eraseDups_nil, List.mergeSort_nil]

end Relvar.Generated
