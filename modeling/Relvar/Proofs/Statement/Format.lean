/-
Statements in the format style. There a percent sign is never alone: two of them stand for
one, and one in front of the letter s takes the next parameter. Doubling the percent signs
of a statement makes no marker, breaks none and takes none away, so whatever a statement
holds, what is sent reads as what was written, with a parameter in the place of each marker.
-/
import Relvar.Proofs.Outcome
import Relvar.Proofs.Statement.Piece
import Relvar.Statement.Binding

set_option autoImplicit false

namespace Relvar.Statement

open Text (isDecimal)

/-! ## Reading -/

/-- What a reader of a statement finds in it: characters and parameters. -/
inductive Symbol (α : Type)
  | char (c : Char)
  | parameter (p : α)
  deriving DecidableEq

/-- A statement in the format style, read from left to right. Every parameter is taken
once, in order, and none may be left. -/
def readFormat {α : Type} : List Char → List α → Option (List (Symbol α))
  | [], [] => some []
  | [], _ :: _ => none
  | '%' :: '%' :: s, ps => (readFormat s ps).map (.char '%' :: ·)
  | '%' :: 's' :: s, p :: ps => (readFormat s ps).map (.parameter p :: ·)
  | '%' :: _, _ => none
  | c :: s, ps => (readFormat s ps).map (.char c :: ·)

section

variable {α : Type} {params : List α}

/-- What a piece of a statement stands for: itself, or the parameter of its number. -/
inductive Fills (params : List α) : Piece → Symbol α → Prop
  | plain (c : Char) : Fills params (.plain c) (.char c)
  | marker {ds : List Char} {n : Nat} {p : α} (number : Decimal.valueOfDigits ds = n + 1)
      (param : params[n]? = some p) : Fills params (.marker ds) (.parameter p)

/-- A statement with its parameters in the places of its markers. -/
def Filled (params : List α) (s : List Char) (out : List (Symbol α)) : Prop :=
  ∃ ps, Cut s ps ∧ List.Forall₂ (Fills params) ps out

theorem readFormat_plain (c : Char) (s : List Char) (ordered : List α) :
    readFormat (Piece.render .format (.plain c) ++ s) ordered =
      (readFormat s ordered).map (.char c :: ·) := by
  by_cases hc : c = '%'
  · subst hc
    simp [Piece.render, readFormat]
  · have hrender : Piece.render .format (.plain c) = [c] := by simp [Piece.render, hc]
    rw [hrender, List.singleton_append]
    rw [readFormat]
    all_goals simp [hc]

theorem readFormat_marker (ds s : List Char) (p : α) (ordered : List α) :
    readFormat (Piece.render .format (.marker ds) ++ s) (p :: ordered) =
      (readFormat s ordered).map (.parameter p :: ·) := by
  simp [Piece.render, readFormat]

/-! ## Parameters of markers -/

/-- A marker that names none of so many parameters: it has too many digits to be read, or
its number is zero or beyond the last one. -/
def Unmet (count : Nat) (ds : List Char) : Prop :=
  Decimal.digitLimit < ds.length ∨ Decimal.valueOfDigits ds < 1 ∨
    count < Decimal.valueOfDigits ds

instance (count : Nat) (ds : List Char) : Decidable (Unmet count ds) :=
  inferInstanceAs (Decidable (_ ∨ _ ∨ _))

/-- The parameter that a marker takes. -/
def Takes (params : List α) (ds : List Char) (p : α) : Prop :=
  ds.length ≤ Decimal.digitLimit ∧ Fills params (.marker ds) (.parameter p)

theorem takes_iff {ds : List Char} : (∃ p, Takes params ds p) ↔ ¬ Unmet params.length ds := by
  simp only [Unmet, not_or, not_lt]
  constructor
  · rintro ⟨p, hlength, hfills⟩
    cases hfills with
    | @marker _ n _ number param =>
      obtain ⟨hn, -⟩ := List.getElem?_eq_some_iff.mp param
      exact ⟨hlength, by omega, by omega⟩
  · rintro ⟨hlength, hpos, hle⟩
    obtain ⟨n, hn⟩ := Nat.exists_eq_add_of_le' hpos
    have hbound : n < params.length := by omega
    exact ⟨params[n], hlength, .marker hn (List.getElem?_eq_getElem hbound)⟩

/-- The number of a marker is read, unless it has too many digits. -/
theorem readNumber_eq_ok {ds : List Char} {n : Nat} :
    (Decimal.readDigits ds).mapError Fault.numeral = .ok n ↔
      ds.length ≤ Decimal.digitLimit ∧ Decimal.valueOfDigits ds = n := by
  rw [Except.mapError_eq_ok, Decimal.readDigits]
  split
  · next hlong => simp [Nat.not_le.mpr hlong]
  · next hshort => simp [Nat.not_lt.mp hshort]

theorem numbers_eq_mapM (dss : List (List Char)) :
    numbers dss = dss.mapM fun ds => (Decimal.readDigits ds).mapError Fault.numeral :=
  Except.eq_mapM numbers rfl (fun _ _ => rfl) dss

theorem numbers_eq_ok {dss : List (List Char)} {ns : List Nat} :
    numbers dss = .ok ns ↔
      List.Forall₂ (fun ds n => ds.length ≤ Decimal.digitLimit ∧ Decimal.valueOfDigits ds = n)
        dss ns := by
  rw [numbers_eq_mapM, Except.mapM_eq_ok]
  simp only [readNumber_eq_ok]

/-- The parameter of a number, counted from one. -/
def chosen (params : List α) (n : Nat) : Except Fault α :=
  match n, params[n - 1]? with
  | _ + 1, some p => .ok p
  | _, _ => .error (.noParameter n params.length)

theorem pick_eq_mapM (ns : List Nat) : pick params ns = ns.mapM (chosen params) := by
  refine Except.eq_mapM (pick params) rfl (fun n ns => ?_) ns
  rw [pick.eq_def]
  unfold chosen
  cases n with
  | zero => rfl
  | succ m => cases hp : params[m]? <;> simp only [Nat.add_sub_cancel, hp] <;> rfl

theorem chosen_eq_ok {n : Nat} {p : α} :
    chosen params n = .ok p ↔ ∃ m, n = m + 1 ∧ params[m]? = some p := by
  cases n with
  | zero => simp [chosen]
  | succ m => cases hp : params[m]? <;> simp [chosen, hp]

theorem pick_eq_ok {ns : List Nat} {ordered : List α} :
    pick params ns = .ok ordered ↔
      List.Forall₂ (fun n p => ∃ m, n = m + 1 ∧ params[m]? = some p) ns ordered := by
  rw [pick_eq_mapM, Except.mapM_eq_ok]
  simp only [chosen_eq_ok]

/-- The markers of a statement take their parameters, in the order of the markers. -/
theorem picked_iff {dss : List (List Char)} {ordered : List α} :
    (∃ ns, numbers dss = .ok ns ∧ pick params ns = .ok ordered) ↔
      List.Forall₂ (Takes params) dss ordered := by
  simp only [numbers_eq_ok, pick_eq_ok]
  -- numbers and parameters are read one after the other, and meet marker by marker
  induction dss generalizing ordered with
  | nil => simp
  | cons ds dss ih =>
    rw [List.forall₂_cons_left_iff]
    simp only [← ih]
    constructor
    · rintro ⟨ns, hnumbers, hpick⟩
      obtain ⟨n, ns, ⟨hlength, hn⟩, hrest, rfl⟩ := List.forall₂_cons_left_iff.mp hnumbers
      obtain ⟨p, ps, ⟨m, rfl, hp⟩, hps, rfl⟩ := List.forall₂_cons_left_iff.mp hpick
      exact ⟨p, ps, ⟨hlength, .marker hn hp⟩, ⟨ns, hrest, hps⟩, rfl⟩
    · rintro ⟨p, ps, ⟨hlength, hfills⟩, ⟨ns, hrest, hps⟩, rfl⟩
      cases hfills with
      | @marker _ m _ number param =>
        exact ⟨(m + 1) :: ns, .cons ⟨hlength, number⟩ hrest, .cons ⟨m, rfl, param⟩ hps⟩

/-! ## Statements in the format style -/

theorem bind_format_eq_ok {statement text : String} {ordered : List α} :
    bind .format statement params = .ok (text, ordered) ↔
      List.Forall₂ (Takes params) (Piece.markers (pieces statement.toList)) ordered ∧
        text = String.ofList ((pieces statement.toList).flatMap (Piece.render .format)) := by
  rw [← picked_iff, bind]
  simp only [Except.bind_eq_ok]
  constructor
  · rintro ⟨ns, hns, ordered', hordered, h⟩
    obtain ⟨rfl, rfl⟩ := Prod.mk.inj (Except.ok.inj h)
    exact ⟨⟨ns, hns, hordered⟩, rfl⟩
  · rintro ⟨⟨ns, hns, hordered⟩, rfl⟩
    exact ⟨ns, hns, ordered, hordered, rfl⟩

theorem category_of_numbers {dss : List (List Char)} {e : Fault}
    (h : numbers dss = .error e) : e.category = .value := by
  rw [numbers_eq_mapM] at h
  obtain ⟨-, ds, -, -, -, hds⟩ := Except.mapM_eq_error.mp h
  obtain ⟨e', -, rfl⟩ := Except.mapError_eq_error.mp hds
  rfl

theorem category_of_pick {ns : List Nat} {e : Fault}
    (h : pick params ns = .error e) : e.category = .value := by
  rw [pick_eq_mapM] at h
  obtain ⟨-, n, -, -, -, hn⟩ := Except.mapM_eq_error.mp h
  unfold chosen at hn
  split at hn <;> cases hn
  rfl

/-- A statement that is refused is refused for the value of one of its markers. -/
theorem category_of_bind {style : BindStyle} {statement : String} {e : Fault}
    (h : bind style statement params = .error e) : e.category = .value := by
  rcases Except.bind_eq_error.mp h with h | ⟨ns, -, h⟩
  · exact category_of_numbers h
  · rcases Except.bind_eq_error.mp h with h | ⟨ordered, -, h⟩
    · exact category_of_pick h
    · cases style <;> cases h

/-- What is made of the pieces is read as what the pieces stand for. -/
theorem exists_filled {ps : List Piece} {ordered : List α}
    (h : List.Forall₂ (Takes params) (Piece.markers ps) ordered) :
    ∃ out, List.Forall₂ (Fills params) ps out ∧
      readFormat (ps.flatMap (Piece.render .format)) ordered = some out := by
  induction ps generalizing ordered with
  | nil =>
    obtain rfl := List.forall₂_nil_left_iff.mp h
    exact ⟨[], .nil, rfl⟩
  | cons piece ps ih =>
    rw [List.flatMap_cons]
    cases piece with
    | plain c =>
      obtain ⟨out, hfills, hread⟩ := ih h
      exact ⟨.char c :: out, .cons (.plain c) hfills, by rw [readFormat_plain, hread]; rfl⟩
    | marker ds =>
      obtain ⟨p, ordered, ⟨-, hp⟩, hrest, rfl⟩ := List.forall₂_cons_left_iff.mp h
      obtain ⟨out, hfills, hread⟩ := ih hrest
      exact ⟨.parameter p :: out, .cons hp hfills, by rw [readFormat_marker, hread]; rfl⟩

end

/-! ## Doubling -/

/-- A character as it is escaped: a percent sign is doubled. -/
def escaped (c : Char) : List Char := if c = '%' then ['%', '%'] else [c]

/-- A piece with its characters escaped. -/
def escapedPiece : Piece → List Piece
  | .plain c => (escaped c).map .plain
  | .marker ds => [.marker ds]

/-- A piece of an escaped statement in the format style. -/
def substituted : Piece → List Char
  | .plain c => [c]
  | .marker _ => ['%', 's']

theorem escaped_of_ne {c : Char} (h : c ≠ '%') : escaped c = [c] := if_neg h

/-- A statement goes on with a digit exactly if it does when it is escaped. -/
theorem Stops.flatMap_escaped {s : List Char} (h : Stops s) : Stops (s.flatMap escaped) := by
  cases s with
  | nil => exact h
  | cons c s =>
    rw [List.flatMap_cons]
    by_cases hc : c = '%'
    · subst hc
      rintro d ⟨⟩
      decide
    · rw [escaped_of_ne hc]
      exact h

/-- Digits hold no percent sign. -/
theorem IsNumeral.flatMap_escaped {ds : List Char} (h : IsNumeral ds) :
    ds.flatMap escaped = ds := by
  have hne : ∀ d ∈ ds, escaped d = [d] := by
    intro d hd
    refine escaped_of_ne ?_
    rintro rfl
    exact absurd (h.digits _ hd) (by decide)
  rw [List.flatMap_congr hne, List.flatMap_singleton']

/-- An escaped statement has the same markers, and its characters are escaped. -/
theorem Cut.flatMap_escaped {s : List Char} {ps : List Piece} (h : Cut s ps) :
    Cut (s.flatMap escaped) (ps.flatMap escapedPiece) := by
  induction h with
  | nil => exact .nil
  | @plain c s ps free rest ih =>
    rw [List.flatMap_cons, List.flatMap_cons, escapedPiece]
    by_cases hc : c = '%'
    · subst hc
      have hne : '%' ≠ '?' := by decide
      exact .plain (absurd · hne) (.plain (absurd · hne) ih)
    · rw [escaped_of_ne hc]
      exact .plain (fun hmark => (free hmark).flatMap_escaped) ih
  | @marker ds s ps numeral stops rest ih =>
    have hchars : ('?' :: (ds ++ s)).flatMap escaped = '?' :: (ds ++ s.flatMap escaped) := by
      rw [List.flatMap_cons, List.flatMap_append, numeral.flatMap_escaped]
      rfl
    rw [hchars]
    exact .marker numeral stops.flatMap_escaped ih

/-- To render a statement in the format style is to escape it first and then to put the
sign of the style in the place of each marker that is found. -/
theorem flatMap_render_format (s : List Char) :
    (pieces s).flatMap (Piece.render .format) =
      (pieces (s.flatMap escaped)).flatMap substituted := by
  have hpiece : ∀ piece : Piece,
      Piece.render .format piece = (escapedPiece piece).flatMap substituted := by
    intro piece
    cases piece with
    | plain c =>
      by_cases hc : c = '%' <;> simp [Piece.render, escapedPiece, escaped, substituted, hc]
    | marker ds => rfl
  rw [← cut_iff.mp (cut_pieces s).flatMap_escaped, List.flatMap_assoc]
  exact List.flatMap_congr fun piece _ => hpiece piece

/-- **Statements in the format style.** A statement is refused exactly if one of its markers
names no parameter. Otherwise its percent signs are doubled and its markers replaced, and
what is sent reads, with the parameters that are sent along, as the statement itself with
the parameter of its number in the place of each marker. -/
theorem format_reads_back {α : Type} (statement : String) (params : List α) :
    ((∃ e, bind .format statement params = .error e ∧ e.category = .value) ↔
      ∃ ds, HasMarker statement.toList ds ∧ Unmet params.length ds) ∧
    ((∀ ds, HasMarker statement.toList ds → ¬ Unmet params.length ds) →
      ∃ text ordered out, bind .format statement params = .ok (text, ordered) ∧
        text.toList = (pieces (statement.toList.flatMap escaped)).flatMap substituted ∧
        Filled params statement.toList out ∧ readFormat text.toList ordered = some out) := by
  have hmet : (∀ ds, HasMarker statement.toList ds → ¬ Unmet params.length ds) ↔
      ∃ ordered, List.Forall₂ (Takes params) (Piece.markers (pieces statement.toList)) ordered := by
    simp only [exists_forall₂_iff, takes_iff, mem_markers_iff]
  constructor
  · constructor
    · rintro ⟨e, he, -⟩
      by_contra hnone
      obtain ⟨ordered, htakes⟩ := hmet.mp fun ds hds hunmet => hnone ⟨ds, hds, hunmet⟩
      rw [bind_format_eq_ok.mpr ⟨htakes, rfl⟩] at he
      cases he
    · rintro ⟨ds, hds, hunmet⟩
      cases hbind : bind .format statement params with
      | error e => exact ⟨e, rfl, category_of_bind hbind⟩
      | ok sent =>
        have htakes := (bind_format_eq_ok.mp hbind).1
        exact absurd hunmet (hmet.mpr ⟨_, htakes⟩ ds hds)
  · intro hall
    obtain ⟨ordered, htakes⟩ := hmet.mp hall
    obtain ⟨out, hfills, hread⟩ := exists_filled htakes
    refine ⟨_, ordered, out, bind_format_eq_ok.mpr ⟨htakes, rfl⟩, ?_,
      ⟨_, cut_pieces _, hfills⟩, ?_⟩
    · rw [String.toList_ofList, flatMap_render_format]
    · rw [String.toList_ofList, hread]

/-- A statement with percent signs of every kind, a question mark that begins no marker, and
markers out of order. -/
def shareStatement : String := "set note='100%s?', share=?2 where note like '%?1%%' and id=?01"

example : (bind .format shareStatement [7, 3]).toOption =
    some ("set note='100%%s?', share=%s where note like '%%%s%%%%' and id=%s", [3, 7, 7]) := by
  decide +kernel

theorem format_reads_back_share :
    (∃ e, bind .format "share=?0" [7] = .error e ∧ e.category = .value) ∧
    ∃ text ordered out, bind .format shareStatement [7, 3] = .ok (text, ordered) ∧
      text.toList = (pieces (shareStatement.toList.flatMap escaped)).flatMap substituted ∧
      Filled [7, 3] shareStatement.toList out ∧ readFormat text.toList ordered = some out := by
  have hzero : HasMarker "share=?0".toList ['0'] := mem_markers_iff.mp (by decide +kernel)
  have hmet : ∀ ds ∈ Piece.markers (pieces shareStatement.toList), ¬ Unmet 2 ds := by
    decide +kernel
  exact ⟨(format_reads_back "share=?0" [7]).1.mpr ⟨_, hzero, by decide +kernel⟩,
    (format_reads_back shareStatement [7, 3]).2 fun ds hds => hmet ds (mem_markers_iff.mpr hds)⟩

end Relvar.Statement
