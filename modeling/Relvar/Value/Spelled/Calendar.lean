/-
Dates and moments that values spell. Text and bytes spell a date or a moment as it
is written or counted to, a number a moment that it counts to. A date also spells its
midnight, and the midnight of a day spells its date.
-/
import Relvar.Calendar.Written
import Relvar.Value.Spelled

set_option autoImplicit false

namespace Relvar.Value

/-- The moment that a value spells, where a date spells none. -/
def spelledInstant (v : Value) : Except FaultKind Moment :=
  match v.encodedText? .unclearMoment, v.asInt?, v with
  | some r, _, _ => r.bind fun s => (Moment.ofData? s).elim (.error .unclearMoment) .ok
  | none, some n, _ => (Moment.ofCount? n 0).elim (.error .uncountedMoment) .ok
  | none, none, real x => (Moment.ofRealCount? x).elim (.error .uncountedMoment) .ok
  | none, none, moment t => .ok t
  | none, none, _ => .error .notMoment

/-- The date that text or bytes write. -/
def writtenDate? (v : Value) : Option Date :=
  match v.encodedText? .unclearDate with
  | some (.ok s) => Date.ofWritten? s
  | _ => none

/-- The date that a value is or writes, if it does. -/
def plainDate? : Value → Option Date
  | date d => some d
  | v => v.writtenDate?

/-- The date that a value spells, or the kind of fault: a moment spells its date only
if it is a midnight. -/
def spelledDate (v : Value) : Except FaultKind Date :=
  match v.plainDate?, v.spelledInstant with
  | some d, _ => .ok d
  | none, .ok t => if t.isMidnight then .ok t.date else .error .datePastMidnight
  | none, .error .notMoment => .error .notDate
  | none, .error _ => .error .unclearDate

/-- The moment that a value spells, or the kind of fault. -/
def spelledMoment (v : Value) : Except FaultKind Moment :=
  match v.spelledInstant, v.plainDate? with
  | .ok t, _ => .ok t
  | .error _, some d => .ok (Moment.midnight d)
  | .error kind, none => .error kind

/-- The kind of fault of a value that spells no time of day. -/
def timeFault? (v : Value) : Option FaultKind :=
  match v.encodedText? .unclearTime, v.asInt?, v with
  | some r, _, _ => match r with
    | .ok s => if Moment.isTimeText s then none else some .unclearTime
    | .error kind => some kind
  | none, some n, _ => if 0 ≤ n && n < 86400 then none else some .unclearTime
  | none, none, real x =>
    if x.truncate?.any fun n => 0 ≤ n && n < 86400 then none else some .unclearTime
  | none, none, _ => some .notTime

end Relvar.Value
