/-
The pieces of any statement. A statement falls into pieces in one way: a marker takes all
the digits behind its question mark, and every other character is a piece of its own. The
pieces are found from the end of the statement; here they are described from its front,
and by the places in the statement where markers stand.
-/
import Relvar.Statement.Piece
import Mathlib.Data.List.TakeWhile

set_option autoImplicit false

namespace Relvar.Statement

open Text (isDecimal)

/-! ## Digits at the front -/

/-- Characters none of which is a digit at the front: what ends the digits of a marker. -/
def Stops (s : List Char) : Prop := ∀ d ∈ s.head?, isDecimal d = false

/-- Digits of a marker: some digits and nothing else. -/
structure IsNumeral (ds : List Char) : Prop where
  ne_nil : ds ≠ []
  digits : ∀ d ∈ ds, isDecimal d = true

/-- A question mark is no digit. -/
theorem isDecimal_mark : isDecimal '?' = false := by decide

theorem IsNumeral.mark_notMem {ds : List Char} (h : IsNumeral ds) : '?' ∉ ds :=
  fun hmark => absurd (h.digits _ hmark) (by simp [isDecimal_mark])

/-- Characters other than the question mark are pieces of their own. -/
theorem foldr_cons {s : List Char} (ps : List Piece) (hs : '?' ∉ s) :
    s.foldr Piece.cons ps = s.map .plain ++ ps := by
  induction s with
  | nil => rfl
  | cons c s ih =>
    obtain ⟨hc, hs⟩ := not_or.mp (mt List.mem_cons.mpr hs)
    rw [List.foldr_cons, ih hs, Piece.cons]
    simp [Ne.symm hc]

theorem leadingDigits_append {ds : List Char} {ps : List Piece}
    (hds : ∀ c ∈ ds, isDecimal c = true) (hps : Piece.leadingDigits ps = []) :
    Piece.leadingDigits (ds.map .plain ++ ps) = ds := by
  induction ds with
  | nil => exact hps
  | cons c ds ih =>
    obtain ⟨hc, hds⟩ := List.forall_mem_cons.mp hds
    simp [Piece.leadingDigits, hc, ih hds]

/-- The digits at the front of the pieces of a statement are those at its own front. -/
theorem leadingDigits_pieces (s : List Char) :
    Piece.leadingDigits (pieces s) = s.takeWhile isDecimal := by
  induction s with
  | nil => rfl
  | cons c s ih =>
    have hcons : pieces (c :: s) = Piece.cons c (pieces s) := rfl
    rw [hcons, Piece.cons, ih]
    by_cases hmark : c = '?'
    · subst hmark
      rw [List.takeWhile_cons_of_neg (by simp [isDecimal_mark])]
      split <;> simp [Piece.leadingDigits, isDecimal_mark]
    · by_cases hc : isDecimal c = true <;> simp [hmark, Piece.leadingDigits, hc, ih]

theorem stops_iff {s : List Char} : Stops s ↔ s.takeWhile isDecimal = [] := by
  cases s with
  | nil => simp [Stops]
  | cons c s => cases hc : isDecimal c <;> simp [Stops, hc]

/-- What is left of a statement when the digits at its front are taken. -/
theorem stops_dropWhile (s : List Char) : Stops (s.dropWhile isDecimal) := by
  intro d hd
  have hhead := List.head?_dropWhile_not isDecimal s
  rw [Option.mem_def.mp hd] at hhead
  exact hhead

/-! ## Pieces from the front -/

/-- A character that begins no marker is a piece of its own. -/
theorem pieces_plain {c : Char} {s : List Char} (h : c = '?' → Stops s) :
    pieces (c :: s) = .plain c :: pieces s := by
  have hcons : pieces (c :: s) = Piece.cons c (pieces s) := rfl
  rw [hcons, Piece.cons, leadingDigits_pieces]
  by_cases hmark : c = '?'
  · simp [stops_iff.mp (h hmark)]
  · simp [hmark]

/-- Digits that no question mark stands in front of are pieces of their own. -/
theorem pieces_digits {ds : List Char} (s : List Char) (hds : IsNumeral ds) :
    pieces (ds ++ s) = ds.map .plain ++ pieces s := by
  rw [pieces, List.foldr_append, foldr_cons _ hds.mark_notMem]
  rfl

/-- A marker takes its digits, and the rest is cut as if it stood alone. -/
theorem pieces_marker {ds s : List Char} (hds : IsNumeral ds) (hs : Stops s) :
    pieces ('?' :: (ds ++ s)) = .marker ds :: pieces s := by
  have hlead : Piece.leadingDigits (ds.map .plain ++ pieces s) = ds :=
    leadingDigits_append hds.digits (by rw [leadingDigits_pieces, stops_iff.mp hs])
  have hcons : pieces ('?' :: (ds ++ s)) = Piece.cons '?' (pieces (ds ++ s)) := rfl
  rw [hcons, pieces_digits s hds, Piece.cons, hlead]
  simp [hds.ne_nil]

/-- How a statement falls into pieces, from its front. -/
inductive Cut : List Char → List Piece → Prop
  | nil : Cut [] []
  | plain {c : Char} {s : List Char} {ps : List Piece} (free : c = '?' → Stops s)
      (rest : Cut s ps) : Cut (c :: s) (.plain c :: ps)
  | marker {ds s : List Char} {ps : List Piece} (numeral : IsNumeral ds) (stops : Stops s)
      (rest : Cut s ps) : Cut ('?' :: (ds ++ s)) (.marker ds :: ps)

/-- A statement can be cut. What is cut off at the front is a character or a whole marker,
so the induction is on the length of the statement. -/
theorem cut_pieces : ∀ s : List Char, Cut s (pieces s)
  | [] => .nil
  | c :: s => by
    by_cases hmarker : c = '?' ∧ s.takeWhile isDecimal ≠ []
    · obtain ⟨rfl, hne⟩ := hmarker
      have hnumeral : IsNumeral (s.takeWhile isDecimal) :=
        ⟨hne, fun d hd => List.mem_takeWhile_imp hd⟩
      have hstops := stops_dropWhile s
      have hcut := Cut.marker hnumeral hstops (cut_pieces (s.dropWhile isDecimal))
      rw [← pieces_marker hnumeral hstops, List.takeWhile_append_dropWhile] at hcut
      exact hcut
    · have hfree : c = '?' → Stops s := fun hc =>
        stops_iff.mpr (by simpa [hc] using hmarker)
      rw [pieces_plain hfree]
      exact .plain hfree (cut_pieces s)
termination_by s => s.length
decreasing_by
  · exact Nat.lt_succ_of_le (List.length_dropWhile_le isDecimal s)
  · exact Nat.lt_succ_self _

/-- A statement falls into pieces in one way. -/
theorem cut_iff {s : List Char} {ps : List Piece} : Cut s ps ↔ ps = pieces s := by
  constructor
  · intro h
    induction h with
    | nil => rfl
    | plain free _ ih => rw [pieces_plain free, ih]
    | marker numeral stops _ ih => rw [pieces_marker numeral stops, ih]
  · rintro rfl
    exact cut_pieces s

/-! ## Markers -/

/-- A marker stands in a statement: somewhere behind a question mark there are these digits,
and no digit behind them. -/
def HasMarker (s ds : List Char) : Prop :=
  IsNumeral ds ∧ ∃ before behind, s = before ++ '?' :: (ds ++ behind) ∧ Stops behind

theorem markers_append (ps qs : List Piece) :
    Piece.markers (ps ++ qs) = Piece.markers ps ++ Piece.markers qs := by
  induction ps with
  | nil => rfl
  | cons p ps ih => cases p <;> simp [Piece.markers, ih]

theorem markers_plain (s : List Char) : Piece.markers (s.map .plain) = [] := by
  induction s with
  | nil => rfl
  | cons c s ih => exact ih

/-- A marker among the pieces stands in the statement. -/
theorem Cut.hasMarker {s ds : List Char} {ps : List Piece} (h : Cut s ps)
    (hds : ds ∈ Piece.markers ps) : HasMarker s ds := by
  induction h with
  | nil => cases hds
  | @plain c s ps free rest ih =>
    obtain ⟨hnumeral, before, behind, rfl, hstops⟩ := ih hds
    exact ⟨hnumeral, c :: before, behind, rfl, hstops⟩
  | @marker ds' s ps numeral stops rest ih =>
    rcases List.mem_cons.mp hds with rfl | hds
    · exact ⟨numeral, [], s, rfl, stops⟩
    · obtain ⟨hnumeral, before, behind, rfl, hstops⟩ := ih hds
      exact ⟨hnumeral, '?' :: (ds' ++ before), behind, by simp, hstops⟩

/-- A marker stays one when a character comes in front of the statement. -/
theorem Cut.markers_subset {c : Char} {s : List Char} {ps : List Piece}
    (h : Cut (c :: s) ps) : Piece.markers (pieces s) ⊆ Piece.markers ps := by
  cases h with
  | plain free rest =>
    rw [cut_iff.mp rest]
    exact List.Subset.refl _
  | marker numeral stops rest =>
    rw [pieces_digits _ numeral, markers_append, markers_plain, ← cut_iff.mp rest]
    exact List.subset_cons_self _ _

/-- The markers among the pieces are those that stand in the statement. -/
theorem mem_markers_iff {s ds : List Char} : ds ∈ Piece.markers (pieces s) ↔ HasMarker s ds := by
  constructor
  · exact (cut_pieces s).hasMarker
  · rintro ⟨hnumeral, before, behind, rfl, hstops⟩
    induction before with
    | nil =>
      rw [List.nil_append, pieces_marker hnumeral hstops]
      exact List.mem_cons_self
    | cons c before ih => exact (cut_pieces _).markers_subset ih

end Relvar.Statement
