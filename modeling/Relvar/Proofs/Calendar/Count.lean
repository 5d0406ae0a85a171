/-
The count of days and of microseconds. The number of a date is counted from the first of March,
so that the leap day is the last of its year; here it is shown to count what a calendar counts,
each month from where the days of the month in front of it end. So the later of two dates has the
larger number, and the later of two moments the larger count.
-/
import Relvar.Proofs.Calendar.Iso
import Mathlib.Data.Nat.Init

set_option autoImplicit false

namespace Relvar

/-! ## Dates -/

namespace Date

/-- The days in the years before one, where years start in March. Every fourth year has a leap
day, and of the hundredth years every fourth. -/
def marchDays (year : Int) : Int := 365 * year + year / 4 - year / 100 + year / 400

/-- The days between the first of March and a month, where years start in March. -/
def daysBefore (month : Nat) : Nat := (153 * marchMonth month + 2) / 5

/-- The number of a date without the cycles of four hundred years. -/
theorem number_eq (d : Date) : d.number =
    marchDays (if d.month ≤ 2 then (d.year : Int) - 1 else d.year) + daysBefore d.month + d.day -
      719469 := by
  unfold number marchDays daysBefore
  generalize (if d.month ≤ 2 then (d.year : Int) - 1 else d.year) = y
  have hera : y.fdiv 400 = y / 400 := Int.fdiv_eq_ediv_of_nonneg y (by decide)
  simp only [hera]
  omega

/-- A year that starts in March ends with February, and with the leap day if there is one. -/
theorem marchDays_succ (year : Nat) :
    marchDays year = marchDays ((year : Int) - 1) + 337 + daysOf year 2 := by
  unfold marchDays daysOf
  simp only [if_true, Bool.and_eq_true, Bool.or_eq_true, decide_eq_true_eq, bne_iff_ne]
  split_ifs with hleap
  · omega
  · omega

/-- The days of a month other than February are the same in every year. -/
theorem daysOf_of_ne {month : Nat} (h : month ≠ 2) (year : Nat) :
    daysOf year month = if [4, 6, 9, 11].contains month then 30 else 31 := by
  rw [daysOf, if_neg h]

theorem daysBefore_succ {month : Nat} (hpos : 1 ≤ month) (hlt : month < 12) (hne : month ≠ 2)
    (year : Nat) : daysBefore (month + 1) = daysBefore month + daysOf year month := by
  have hall : ∀ m < 12, 1 ≤ m → m ≠ 2 →
      daysBefore (m + 1) = daysBefore m + if [4, 6, 9, 11].contains m then 30 else 31 := by decide
  rw [daysOf_of_ne hne]
  exact hall month hlt hpos hne

/-- A month starts after the days of the month in front of it. -/
theorem number_nextMonth (year : Nat) {month : Nat} (hpos : 1 ≤ month) (hlt : month < 12) :
    number ⟨year, month + 1, 0⟩ = number ⟨year, month, 0⟩ + daysOf year month := by
  rw [number_eq, number_eq]
  by_cases hfebruary : month = 2
  · -- the year that starts in March begins
    subst hfebruary
    have hyear := marchDays_succ year
    have hmarch : daysBefore 3 = 0 := rfl
    have hrest : daysBefore 2 = 337 := rfl
    simp only [Nat.reduceAdd, Nat.reduceLeDiff, if_false, Nat.le_refl, if_true, hmarch, hrest]
    omega
  · have hdays := daysBefore_succ hpos hlt hfebruary year
    have hside : month + 1 ≤ 2 ↔ month ≤ 2 := by omega
    simp only [hside, hdays]
    omega

/-- A year starts after the days of the December in front of it. -/
theorem number_nextYear (year : Nat) :
    number ⟨year + 1, 1, 0⟩ = number ⟨year, 12, 0⟩ + daysOf year 12 := by
  have hdays : daysOf year 12 = 31 := rfl
  have hdecember : daysBefore 12 = 275 := rfl
  have hjanuary : daysBefore 1 = 306 := rfl
  rw [number_eq, number_eq, hdays]
  simp only [show (1 : Nat) ≤ 2 by decide, show ¬ (12 : Nat) ≤ 2 by decide, if_true, if_false,
    hdecember, hjanuary]
  have hyear : ((year + 1 : Nat) : Int) - 1 = year := by omega
  rw [hyear]
  omega

/-- A date comes before another one in the calendar. -/
def Before (d e : Date) : Prop :=
  d.year < e.year ∨ d.year = e.year ∧ (d.month < e.month ∨ d.month = e.month ∧ d.day < e.day)

/-- Two dates are one, or one comes before the other. -/
theorem before_trichotomy (d e : Date) : d.Before e ∨ d = e ∨ e.Before d := by
  by_cases hyear : d.year = e.year
  · by_cases hmonth : d.month = e.month
    · by_cases hday : d.day = e.day
      · refine .inr (.inl ?_)
        cases d
        cases e
        simp_all
      · unfold Before
        omega
    · unfold Before
      omega
  · unfold Before
    omega

/-- A later month of a year starts after the days of an earlier one. -/
theorem number_month_le (year : Nat) {month later : Nat} (hpos : 1 ≤ month) (hlt : month < later)
    (hle : later ≤ 12) :
    number ⟨year, month, 0⟩ + daysOf year month ≤ number ⟨year, later, 0⟩ := by
  induction later, hlt using Nat.le_induction with
  | base => exact Int.le_of_eq (number_nextMonth year hpos (by omega)).symm
  | succ later hlater ih =>
    have hearlier := ih (by omega)
    rw [number_nextMonth year (by omega) (by omega)]
    omega

/-- The next year starts after the days of a month. -/
theorem number_year_le (year : Nat) {month : Nat} (hpos : 1 ≤ month) (hle : month ≤ 12) :
    number ⟨year, month, 0⟩ + daysOf year month ≤ number ⟨year + 1, 1, 0⟩ := by
  rw [number_nextYear]
  by_cases hdecember : month = 12
  · exact Int.le_of_eq (by rw [hdecember])
  · have hmonth := number_month_le year hpos (show month < 12 by omega) (by decide)
    omega

/-- A later year starts later. -/
theorem number_years_le {year later : Nat} (hle : year ≤ later) :
    number ⟨year, 1, 0⟩ ≤ number ⟨later, 1, 0⟩ := by
  induction later, hle using Nat.le_induction with
  | base => exact Int.le_refl _
  | succ later hlater ih =>
    have hnext := number_year_le later (show 1 ≤ 1 by decide) (by decide)
    omega

/-- The number of a date, counted from the day in front of its month. -/
theorem number_day (d : Date) : d.number = number ⟨d.year, d.month, 0⟩ + d.day := by
  rw [number_eq, number_eq]
  simp only
  omega

variable {d e : Date}

theorem Before.number_lt (h : d.Before e) (hd : d.Valid) (he : e.Valid) :
    d.number < e.number := by
  obtain ⟨hmonth, hmonth', -, hday⟩ := hd.ranges
  obtain ⟨hlater, hlater', hfirst, -⟩ := he.ranges
  rw [number_day d, number_day e]
  rcases h with hyear | ⟨hyear, hmonths | ⟨hmonths, hdays⟩⟩
  · -- the year of the first date ends, and the months of the second's year go by
    have hend := number_year_le d.year hmonth hmonth'
    have hyears := number_years_le (show d.year + 1 ≤ e.year by omega)
    have hstart : number ⟨e.year, 1, 0⟩ ≤ number ⟨e.year, e.month, 0⟩ := by
      by_cases hjanuary : e.month = 1
      · exact Int.le_of_eq (by rw [hjanuary])
      · have hle := number_month_le e.year (show 1 ≤ 1 by decide)
          (show 1 < e.month by omega) hlater'
        omega
    omega
  · have hend := number_month_le d.year hmonth hmonths hlater'
    rw [← hyear]
    omega
  · rw [hyear, hmonths]
    omega

/-- **The number of a date tells its place in the calendar.** -/
theorem number_lt_iff (hd : d.Valid) (he : e.Valid) : d.number < e.number ↔ d.Before e := by
  constructor
  · intro hlt
    rcases before_trichotomy d e with h | rfl | h
    · exact h
    · omega
    · have hgt := h.number_lt he hd
      omega
  · intro h
    exact h.number_lt hd he

theorem number_inj (hd : d.Valid) (he : e.Valid) : d.number = e.number ↔ d = e := by
  constructor
  · intro heq
    rcases before_trichotomy d e with h | h | h
    · have hlt := h.number_lt hd he
      omega
    · exact h
    · have hlt := h.number_lt he hd
      omega
  · rintro rfl
    rfl

end Date

end Relvar
