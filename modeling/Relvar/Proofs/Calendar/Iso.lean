/-
The texts of dates and moments. Each number in them is padded to the width that the largest
one needs, so a text is as long as its parts are wide, and it is read back part by part. Of a
moment the fraction and the offset may be missing; what follows tells whether they are.
-/
import Relvar.Calendar.Written
import Relvar.Proofs.Decimal
import Mathlib.Tactic.SplitIfs

set_option autoImplicit false

namespace Relvar

/-! ## Dates -/

namespace Date

/-- A date of the calendar in a year of four digits. -/
structure Valid (d : Date) : Prop where
  calendar : d.inCalendar = true
  year_le : d.year ≤ 9999

instance (d : Date) : Decidable d.Valid :=
  decidable_of_iff (d.inCalendar = true ∧ d.year ≤ 9999) ⟨fun h => ⟨h.1, h.2⟩, fun h => ⟨h.1, h.2⟩⟩

theorem daysOf_le (year month : Nat) : daysOf year month ≤ 31 := by
  unfold daysOf
  split_ifs <;> decide

variable {d : Date}

/-- The parts of a date of the calendar are in their ranges. -/
theorem Valid.ranges (h : d.Valid) :
    1 ≤ d.month ∧ d.month ≤ 12 ∧ 1 ≤ d.day ∧ d.day ≤ daysOf d.year d.month := by
  have hparts := h.calendar
  simp only [inCalendar, Bool.and_eq_true, decide_eq_true_eq] at hparts
  obtain ⟨⟨⟨⟨-, hmonth⟩, hmonth'⟩, hday⟩, hday'⟩ := hparts
  exact ⟨hmonth, hmonth', hday, hday'⟩

/-- The parts of a date have no more digits than its text has places for. -/
theorem Valid.narrow (h : d.Valid) :
    d.year < Nat.pow 10 4 ∧ d.month < Nat.pow 10 2 ∧ d.day < Nat.pow 10 2 := by
  obtain ⟨-, hmonth, -, hday⟩ := h.ranges
  have hyear := h.year_le
  have hdays := daysOf_le d.year d.month
  have hfour : Nat.pow 10 4 = 10000 := rfl
  have htwo : Nat.pow 10 2 = 100 := rfl
  omega

/-- A number at the front of a text is read back from as many digits as it is padded to. -/
theorem takeNumber?_padded {width n : Nat} (hwidth : 0 < width) (hn : n < Nat.pow 10 width)
    (s : List Char) :
    takeNumber? width ((Decimal.padded width n).toList ++ s) = some (n, s) := by
  have hlength := Decimal.length_padded hwidth hn
  have hdigits : (Decimal.padded width n).toList.all Char.isDigit = true :=
    List.all_eq_true.mpr fun _ => Decimal.isDigit_of_mem_padded
  rw [takeNumber?, List.take_left' hlength, List.drop_left' hlength,
    Decimal.valueOfDigits_padded]
  exact if_pos (by rw [hlength, hdigits, decide_eq_true rfl]; rfl)

/-- Two digits are read back. -/
theorem takeNumber?_two {n : Nat} (hn : n < 100) (s : List Char) :
    takeNumber? 2 ((Decimal.padded 2 n).toList ++ s) = some (n, s) :=
  takeNumber?_padded (by decide) hn s

theorem toList_iso (d : Date) : d.iso.toList = (Decimal.padded 4 d.year).toList ++
    '-' :: ((Decimal.padded 2 d.month).toList ++ '-' :: (Decimal.padded 2 d.day).toList) := by
  simp [iso]

theorem readIso?_iso (h : d.Valid) (s : List Char) :
    readIso? (d.iso.toList ++ s) = some (d, s) := by
  obtain ⟨hyear, hmonth, hday⟩ := h.narrow
  rw [toList_iso, List.append_assoc, List.cons_append, List.append_assoc, List.cons_append,
    readIso?, takeNumber?_padded (by decide) hyear, Option.bind_eq_bind, Option.bind_some]
  simp only [takeNumber?_padded (by decide) hmonth, Option.bind_some,
    takeNumber?_padded (by decide) hday]

/-- The text of a date is read back as the date. -/
theorem ofIso?_iso (h : d.Valid) : ofIso? d.iso = some d := by
  have hread := readIso?_iso h []
  rw [List.append_nil] at hread
  rw [ofIso?, hread]

/-- The text of a date has ten characters. -/
theorem length_iso (h : d.Valid) : d.iso.length = 10 := by
  obtain ⟨hyear, hmonth, hday⟩ := h.narrow
  rw [← String.length_toList, toList_iso, List.length_append, List.length_cons,
    List.length_append, List.length_cons, Decimal.length_padded (by decide) hyear,
    Decimal.length_padded (by decide) hmonth, Decimal.length_padded (by decide) hday]

end Date

/-! ## Moments -/

namespace Moment

/-- A moment of the calendar. Its offset from universal time is less than a day. -/
structure Valid (t : Moment) : Prop where
  date : t.date.Valid
  hour_lt : t.hour < 24
  minute_lt : t.minute < 60
  second_lt : t.second < 60
  microsecond_lt : t.microsecond < 1000000
  offset_lt : ∀ m ∈ t.offset, m.natAbs < 24 * 60

instance (t : Moment) : Decidable t.Valid :=
  decidable_of_iff (t.date.Valid ∧ t.hour < 24 ∧ t.minute < 60 ∧ t.second < 60 ∧
      t.microsecond < 1000000 ∧ ∀ m ∈ t.offset, m.natAbs < 24 * 60)
    ⟨fun ⟨h₁, h₂, h₃, h₄, h₅, h₆⟩ => ⟨h₁, h₂, h₃, h₄, h₅, h₆⟩,
      fun ⟨h₁, h₂, h₃, h₄, h₅, h₆⟩ => ⟨h₁, h₂, h₃, h₄, h₅, h₆⟩⟩

variable {t : Moment}

theorem toList_clock (t : Moment) : t.clock.toList = (Decimal.padded 2 t.hour).toList ++
    ':' :: ((Decimal.padded 2 t.minute).toList ++ ':' :: (Decimal.padded 2 t.second).toList) := by
  simp [clock]

theorem toList_iso (t : Moment) : t.iso.toList = t.date.iso.toList ++ 'T' :: (t.clock.toList ++
    ((fractionText t.microsecond).toList ++ (offsetText t.offset).toList)) := by
  simp [iso, isoWith]

theorem toList_offsetText (m : Int) : (offsetText (some m)).toList =
    (if m < 0 then '-' else '+') :: ((Decimal.padded 2 (m.natAbs / 60)).toList ++
      ':' :: (Decimal.padded 2 (m.natAbs % 60)).toList) := by
  by_cases hneg : m < 0
  · simp [offsetText, hneg]
  · simp [offsetText, hneg]

/-! ### Reading back -/

/-- An offset is read back: the hours and minutes that its distance from universal time makes,
with its sign. -/
theorem readOffset?_offsetText {offset : Option Int}
    (h : ∀ m ∈ offset, m.natAbs < 24 * 60) :
    readOffset? (offsetText offset).toList = some offset := by
  cases offset with
  | none => rfl
  | some m =>
    have hm : m.natAbs < 24 * 60 := h m rfl
    have hhours : m.natAbs / 60 < 100 := by omega
    have hminutes : m.natAbs % 60 < 100 := by omega
    have htail : Date.takeNumber? 2 (Decimal.padded 2 (m.natAbs % 60)).toList =
        some (m.natAbs % 60, []) := by
      have hread := Date.takeNumber?_two hminutes []
      rwa [List.append_nil] at hread
    rw [toList_offsetText]
    -- the sign is written in front of the distance, so the parts are the same for both
    by_cases hneg : m < 0
    · have hvalue : -(((m.natAbs / 60 : Nat) : Int) * 60 + ((m.natAbs % 60 : Nat) : Int)) = m := by
        omega
      simp only [hneg, if_true, readOffset?, Date.takeNumber?_two hhours, htail,
        Option.bind_eq_bind, Option.bind_some]
      exact congrArg (some ∘ some) hvalue
    · have hvalue : ((m.natAbs / 60 : Nat) : Int) * 60 + ((m.natAbs % 60 : Nat) : Int) = m := by
        omega
      simp only [hneg, if_false, readOffset?, Date.takeNumber?_two hhours, htail,
        Option.bind_eq_bind, Option.bind_some]
      exact congrArg (some ∘ some) hvalue

/-- A fraction is read back. Without one the text goes on with an offset or ends, and neither
starts with a point. -/
theorem readFraction?_fractionText {microsecond : Nat} (h : microsecond < 1000000)
    (offset : Option Int) :
    readFraction? ((fractionText microsecond).toList ++ (offsetText offset).toList) =
      some (microsecond, (offsetText offset).toList) := by
  by_cases hzero : microsecond = 0
  · subst hzero
    -- what follows starts with a sign or is empty
    cases offset with
    | none => rfl
    | some m =>
      rw [toList_offsetText]
      by_cases hneg : m < 0
      · simp only [hneg, if_true]
        rfl
      · simp only [hneg, if_false]
        rfl
  · have hfraction : (fractionText microsecond).toList =
        '.' :: (Decimal.padded 6 microsecond).toList := by
      simp [fractionText, hzero]
    rw [hfraction, List.cons_append, readFraction?]
    exact Date.takeNumber?_padded (by decide) h _

/-- The text of a moment is read back as the moment. -/
theorem ofIso?_iso (h : t.Valid) : ofIso? t.iso = some t := by
  have hhour := h.hour_lt
  have hminute := h.minute_lt
  have hsecond := h.second_lt
  rw [ofIso?, toList_iso, Date.readIso?_iso h.date, toList_clock]
  simp only [List.append_assoc, List.cons_append, Option.bind_eq_bind, Option.bind_some,
    Date.takeNumber?_two (show t.hour < 100 by omega),
    Date.takeNumber?_two (show t.minute < 100 by omega),
    Date.takeNumber?_two (show t.second < 100 by omega),
    readFraction?_fractionText h.microsecond_lt, readOffset?_offsetText h.offset_lt]

/-! ### Length -/

theorem length_fractionText {microsecond : Nat} (h : microsecond < 1000000) :
    (fractionText microsecond).toList.length = if microsecond = 0 then 0 else 7 := by
  unfold fractionText
  split_ifs
  · rfl
  · have hlength := Decimal.length_padded (show 0 < 6 by decide) h
    simp [hlength]

theorem length_offsetText {offset : Option Int} (h : ∀ m ∈ offset, m.natAbs < 24 * 60) :
    (offsetText offset).toList.length = if offset.isSome then 6 else 0 := by
  cases offset with
  | none => rfl
  | some m =>
    have hm : m.natAbs < 24 * 60 := h m rfl
    have hhours := Decimal.length_padded (show 0 < 2 by decide)
      (show m.natAbs / 60 < 100 by omega)
    have hminutes := Decimal.length_padded (show 0 < 2 by decide)
      (show m.natAbs % 60 < 100 by omega)
    rw [toList_offsetText, List.length_cons, List.length_append, List.length_cons, hhours,
      hminutes]
    rfl

/-- The text of a moment has nineteen characters to the second, seven more for a fraction and
six more for an offset. -/
theorem length_iso (h : t.Valid) : t.iso.length =
    19 + (if t.microsecond = 0 then 0 else 7) + (if t.offset.isSome then 6 else 0) := by
  have hhour := h.hour_lt
  have hminute := h.minute_lt
  have hsecond := h.second_lt
  have hdate : t.date.iso.toList.length = 10 := by
    rw [String.length_toList, Date.length_iso h.date]
  have hclock : t.clock.toList.length = 8 := by
    rw [toList_clock, List.length_append, List.length_cons, List.length_append, List.length_cons,
      Decimal.length_padded (by decide) (show t.hour < 100 by omega),
      Decimal.length_padded (by decide) (show t.minute < 100 by omega),
      Decimal.length_padded (by decide) (show t.second < 100 by omega)]
  rw [← String.length_toList, toList_iso, List.length_append, List.length_cons,
    List.length_append, List.length_append, hdate, hclock, length_fractionText h.microsecond_lt,
    length_offsetText h.offset_lt]
  omega

end Moment

end Relvar
