/-
Dates and moments in columns. The columns of dates and of moments are columns of text, wide
enough for every text that a date or a moment has. A column of dates stores the day of either
kind of value. A column of moments stores moments; a date without a time of day it does not know,
and passes on as it is.
-/
import Relvar.Column
import Relvar.Executor
import Relvar.Proofs.Calendar.Iso

set_option autoImplicit false

namespace Relvar

/-- A date or a moment of the calendar. -/
inductive Value.IsTemporal : Value → Prop
  | date {d : Date} (h : d.Valid) : IsTemporal (.date d)
  | moment {t : Moment} (h : t.Valid) : IsTemporal (.moment t)

/-- A date without a time of day. -/
def Value.IsBareDate (v : Value) : Prop := ∃ d, v = .date d

namespace FieldType

/-- Whether a text is what a column has of a date or a moment: a column of dates the day, a column
of moments the whole moment. -/
def Keeps : FieldType → Value → String → Prop
  | .date, .date d, s => Date.ofIso? s = some d
  | .date, .moment t, s => Date.ofIso? s = some t.date
  | .dateTime, .moment t, s => Moment.ofIso? s = some t
  | _, _, _ => False

/-- A value is stored as text that keeps it and is no wider than a column. -/
def StoresWithin (t : FieldType) (v : Value) (width : Nat) : Prop :=
  ∃ s, t.encode v = .str s ∧ t.Keeps v s ∧ s.length ≤ width

variable {d : Date} {m : Moment}

theorem date_stores_date (h : d.Valid) : FieldType.date.StoresWithin (.date d) 10 :=
  ⟨d.iso, rfl, Date.ofIso?_iso h, Nat.le_of_eq (Date.length_iso h)⟩

/-- A column of dates stores the day of a moment. -/
theorem date_stores_moment (h : m.Valid) : FieldType.date.StoresWithin (.moment m) 10 :=
  ⟨m.date.iso, rfl, Date.ofIso?_iso h.date, Nat.le_of_eq (Date.length_iso h.date)⟩

theorem dateTime_stores_moment (h : m.Valid) :
    FieldType.dateTime.StoresWithin (.moment m) 40 := by
  have hlength : m.iso.length ≤ 40 := by
    rw [Moment.length_iso h]
    split_ifs <;> decide
  exact ⟨m.iso, rfl, Moment.ofIso?_iso h, hlength⟩

/-- A column of moments passes a date without a time of day on. -/
theorem dateTime_encode_date (d : Date) : FieldType.dateTime.encode (.date d) = .date d := rfl

theorem dateTime_not_storesWithin (d : Date) (width : Nat) :
    ¬ FieldType.dateTime.StoresWithin (.date d) width := by
  rintro ⟨s, -, hkeeps, -⟩
  exact hkeeps

/-- **Dates and moments as stored.** The column of a temporal type is one of text of some width,
and each date and moment is stored as text that keeps it and fits that width, with one exception:
a date without a time of day in a column of moments, which is passed on as it is. -/
theorem temporal_stored (t : FieldType) (declared : Option Int) (size : Int) (v : Value)
    (ht : t.isTemporal = true) (hv : v.IsTemporal) :
    ∃ width : Nat, t.columnType declared size = .varchar width ∧
      (t.StoresWithin v width ↔ ¬ (t = .dateTime ∧ v.IsBareDate)) ∧
      (t = .dateTime ∧ v.IsBareDate → t.encode v = v) := by
  have hbare (d : Date) : Value.IsBareDate (.date d) := ⟨d, rfl⟩
  have hmoment (m : Moment) : ¬ Value.IsBareDate (.moment m) := nofun
  cases t with
  | date =>
    refine ⟨10, rfl, ⟨fun _ => nofun, fun _ => ?_⟩, nofun⟩
    cases hv with
    | date h => exact date_stores_date h
    | moment h => exact date_stores_moment h
  | dateTime =>
    refine ⟨40, rfl, ?_⟩
    cases hv with
    | @date d h =>
      exact ⟨iff_of_false (dateTime_not_storesWithin d 40) fun hnot => hnot ⟨rfl, hbare d⟩,
        fun _ => dateTime_encode_date d⟩
    | @moment m h =>
      exact ⟨iff_of_true (dateTime_stores_moment h) fun hbad => hmoment m hbad.2,
        fun hbad => absurd hbad.2 (hmoment m)⟩
  | _ => cases ht

/-- The last microsecond of a day, half an hour and five hours ahead of universal time. -/
def lastMicrosecond : Moment := ⟨⟨2026, 10, 17⟩, 23, 59, 59, 999999, some 330⟩

theorem temporal_stored_lastMicrosecond :
    lastMicrosecond.Valid ∧ ∃ width : Nat,
      FieldType.dateTime.columnType none defaultStringSize = .varchar width ∧
      FieldType.dateTime.StoresWithin (.moment lastMicrosecond) width := by
  have hvalid : lastMicrosecond.Valid := by decide
  obtain ⟨width, hcolumn, hstored, -⟩ :=
    temporal_stored .dateTime none defaultStringSize (.moment lastMicrosecond) rfl (.moment hvalid)
  exact ⟨hvalid, width, hcolumn, hstored.mpr fun hbare => nomatch hbare.2⟩

/-- A date of the calendar reaches the database as a date where the column of moments expects
text. -/
theorem dateTime_passes_date :
    (⟨2026, 10, 17⟩ : Date).Valid ∧
      FieldType.dateTime.encode (.date ⟨2026, 10, 17⟩) = .date ⟨2026, 10, 17⟩ ∧
      ¬ ∃ s, FieldType.dateTime.encode (.date ⟨2026, 10, 17⟩) = .str s :=
  ⟨by decide, rfl, nofun⟩

end FieldType

end Relvar
