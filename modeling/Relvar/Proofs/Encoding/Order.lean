/-
The order of stored dates and moments. What a column keeps of a date or a moment is text, and a
database sorts and compares it as text. So it has to come in the order of the calendar: a column
of dates sorts by the day, whatever kind of value it was given, and a column of moments sorts
moments without an offset by the microsecond.
-/
import Relvar.Executor
import Relvar.Proofs.Calendar.Order

set_option autoImplicit false

namespace Relvar

/-- A date falls on itself, and a moment on the date of its clock. -/
inductive Value.FallsOn : Value → Date → Prop
  | date (d : Date) : FallsOn (.date d) d
  | moment (m : Moment) : FallsOn (.moment m) m.date

namespace FieldType

/-- Two stored values are texts of which the first comes before the second under one condition,
and which are the same under another one. -/
def SortedBy (v w : Value) (before same : Prop) : Prop :=
  ∃ s t, v = .str s ∧ w = .str t ∧ (s < t ↔ before) ∧ (s = t ↔ same)

theorem dateTime_sorted {a b : Moment} (ha : a.Valid) (hb : b.Valid) (ha' : a.offset = none)
    (hb' : b.offset = none) :
    SortedBy (FieldType.dateTime.encode (.moment a)) (FieldType.dateTime.encode (.moment b))
      (a.clockMicroseconds < b.clockMicroseconds) (a = b) :=
  ⟨a.iso, b.iso, rfl, rfl, Moment.iso_lt_iff ha hb ha' hb', Moment.iso_inj ha hb⟩

/-- A column of dates stores the text of the day that a value falls on. -/
theorem date_encode {v : Value} {d : Date} (h : v.FallsOn d) :
    FieldType.date.encode v = .str d.iso := by
  cases h with
  | date d => rfl
  | moment m => rfl

theorem date_sorted {v w : Value} {d e : Date} (hv : v.FallsOn d) (hw : w.FallsOn e)
    (hd : d.Valid) (he : e.Valid) :
    SortedBy (FieldType.date.encode v) (FieldType.date.encode w) (d.Before e) (d = e) := by
  refine ⟨d.iso, e.iso, date_encode hv, date_encode hw, ?_, Date.iso_inj hd he⟩
  rw [Date.iso_lt_iff hd he, Date.number_lt_iff hd he]

/-- **Stored dates and moments sort chronologically.** Two moments without an offset are stored
as texts in the order of time, and as one text only if they are one moment. Two values in a
column of dates are stored as texts in the order of the days that they fall on, and as one text
exactly if they fall on one day. -/
theorem temporal_sorted :
    (∀ a b : Moment, a.Valid → b.Valid → a.offset = none → b.offset = none →
      SortedBy (FieldType.dateTime.encode (.moment a)) (FieldType.dateTime.encode (.moment b))
        (a.clockMicroseconds < b.clockMicroseconds) (a = b)) ∧
    ∀ (v w : Value) (d e : Date), v.FallsOn d → w.FallsOn e → d.Valid → e.Valid →
      SortedBy (FieldType.date.encode v) (FieldType.date.encode w) (d.Before e) (d = e) :=
  ⟨fun _ _ ha hb ha' hb' => dateTime_sorted ha hb ha' hb',
    fun _ _ _ _ hv hw hd he => date_sorted hv hw hd he⟩

/-- The last second of a February. -/
def lastSecond : Moment := ⟨⟨2026, 2, 28⟩, 23, 59, 59, 0, none⟩

/-- The text of the second goes on where that of the first ends. -/
theorem temporal_sorted_february :
    (lastSecond.Valid ∧ SortedBy (FieldType.dateTime.encode (.moment lastSecond))
      (FieldType.dateTime.encode (.moment { lastSecond with microsecond := 1 }))
      (lastSecond.clockMicroseconds <
        ({ lastSecond with microsecond := 1 } : Moment).clockMicroseconds)
      (lastSecond = { lastSecond with microsecond := 1 })) ∧
    SortedBy (FieldType.date.encode (.moment lastSecond))
      (FieldType.date.encode (.date ⟨2026, 3, 1⟩))
      (lastSecond.date.Before ⟨2026, 3, 1⟩) (lastSecond.date = ⟨2026, 3, 1⟩) := by
  have hvalid : lastSecond.Valid := by decide
  have hlater : ({ lastSecond with microsecond := 1 } : Moment).Valid := by decide
  have hmarch : (⟨2026, 3, 1⟩ : Date).Valid := by decide
  exact ⟨⟨hvalid, temporal_sorted.1 _ _ hvalid hlater rfl rfl⟩,
    temporal_sorted.2 _ _ _ _ (.moment lastSecond) (.date ⟨2026, 3, 1⟩) hvalid.date hmarch⟩

end FieldType

end Relvar
