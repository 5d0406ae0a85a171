/-
The discipline of an executor. Every call of an operation uses a connection of its own,
which is opened once at most and closed last; it sends one statement at most and commits it
if it succeeds; and it ends with the count of rows, or with the one fault that stopped it,
wrapped once. A call with a statement to send does ask for a connection, if there is an
address to connect to. What holds of a call holds of every call of a sequence, whatever the
database answers to each of them, for what is connected to stays the same.
-/
import Relvar.Proofs.Calls

set_option autoImplicit false

namespace Relvar

open Database (Event Script SentParameters Target)

namespace Database

/-! ## Answers -/

/-- Whether an event asks for a connection. -/
def Event.isConnect : Event → Bool
  | .connect _ _ => true
  | _ => false

/-- A connection is asked for, and the answer is an error or none. -/
def Script.AnswersConnect (script : Script) (es : List Event) (e : Option Fault) : Prop :=
  es.any Event.isConnect = true ∧ script.connectError = e

/-- A statement is sent, and the answer is an error or none. -/
def Script.AnswersExecute (script : Script) (es : List Event) (e : Option Fault) : Prop :=
  sent es ≠ [] ∧ script.next.error = e

/-- Committing is asked for, and the answer is an error or none. -/
def Script.AnswersCommit (script : Script) (es : List Event) (e : Option Fault) : Prop :=
  .commit ∈ es ∧ script.commitError = e

section

variable (script : Script) (e : Option Fault)

@[simp] theorem not_answersConnect_nil : ¬ script.AnswersConnect [] e := by
  simp [Script.AnswersConnect]

@[simp] theorem not_answersExecute_nil : ¬ script.AnswersExecute [] e := by
  simp [Script.AnswersExecute, sent]

@[simp] theorem not_answersCommit_nil : ¬ script.AnswersCommit [] e := by
  simp [Script.AnswersCommit]

end

/-! ## Order on a connection -/

/-- Events that use one connection in order. -/
structure Orderly (script : Script) (es : List Event) : Prop where
  /-- A connection is asked for once at most. -/
  connects : es.countP Event.isConnect ≤ 1
  /-- A connection is what is asked for first. -/
  begins : es = [] ∨ ∃ address timeout after, es = .connect address timeout :: after
  /-- Whatever else is asked for is asked for on a connection that was made. -/
  opened : ∀ ev ∈ es, ev.isConnect = false → script.AnswersConnect es none
  /-- A connection that was made is closed once, and nothing is asked for afterwards. -/
  closes : script.AnswersConnect es none → ∃ before, es = before ++ [.close] ∧ .close ∉ before
  /-- One statement is sent at most. -/
  sends : (sent es).length ≤ 1
  /-- A statement is sent with a cursor of its own, which is closed whatever the answer is. -/
  cursor : sent es ≠ [] → ∃ before st params after,
    es = before ++ [.openCursor, .execute st params, .closeCursor] ++ after ∧
      .openCursor ∉ before ++ after ∧ .closeCursor ∉ before ++ after
  /-- Committing is asked for exactly if a statement succeeds. -/
  commits : .commit ∈ es ↔ script.AnswersExecute es none
  /-- What was done is rolled back exactly if the database reports an error of the statement
  or of committing it. -/
  rollsBack : .rollback ∈ es ↔ ∃ e, isReported e = true ∧
    (script.AnswersExecute es (some e) ∨ script.AnswersCommit es (some e))

/-! ## What is done on an open connection -/

/-- What is done on an open connection for a statement, whichever way its cursor is kept: the
statement is sent once, it is committed exactly if it succeeds, and both have to succeed. -/
structure Conducts {α : Type} (script : Script) (st : String) (params : SentParameters)
    (r : Except Fault α) (es : List Event) : Prop where
  sends : sent es = [(st, params)]
  commits : .commit ∈ es ↔ script.next.error = none
  fails : ∀ e, r = .error e ↔
    script.next.error = some e ∨ script.next.error = none ∧ script.commitError = some e
  /-- Nothing is asked for that begins or ends a connection. -/
  keeps : ∀ ev ∈ es, ev.isConnect = false ∧ ev ≠ .rollback ∧ ev ≠ .close

theorem mem_settled {α : Type} {r : Except Fault α} {ev : Event} :
    ev ∈ settled r ↔ ev = .rollback ∧ ∃ e, r = .error e ∧ isReported e = true := by
  cases r with
  | ok a => simp [settled]
  | error e => by_cases he : isReported e = true <;> simp [settled, he]

theorem sent_settled {α : Type} (r : Except Fault α) : sent (settled r) = [] := by
  cases r with
  | ok a => rfl
  | error e => by_cases he : isReported e = true <;> simp [settled, he, sent]

section Conducts

variable {α : Type} {script : Script} {st : String} {params : SentParameters}
  {r : Except Fault α} {es : List Event} (address : String) (timeout : Int)
  (h : Conducts script st params r es)
include h

theorem Conducts.returns : (∃ a, r = .ok a) ↔
    script.next.error = none ∧ script.commitError = none := by
  have hfails := h.fails
  cases r with
  | ok a =>
    refine iff_of_true ⟨a, rfl⟩ ?_
    -- an error that the script answers with would be the one that is ended with
    have hexecute : script.next.error = none :=
      Option.eq_none_iff_forall_ne_some.mpr fun e he => by cases (hfails e).mpr (.inl he)
    refine ⟨hexecute, Option.eq_none_iff_forall_ne_some.mpr fun e he => ?_⟩
    cases (hfails e).mpr (.inr ⟨hexecute, he⟩)
  | error e =>
    refine iff_of_false (by simp) ?_
    rintro ⟨hexecute, hcommit⟩
    rcases (hfails e).mp rfl with he | ⟨-, he⟩
    · rw [hexecute] at he
      cases he
    · rw [hcommit] at he
      cases he

theorem Conducts.sent_connected :
    sent (connection address timeout es r) = [(st, params)] := by
  simp [connection, sent_append, sent, h.sends, sent_settled]

theorem Conducts.commit_connected :
    .commit ∈ connection address timeout es r ↔ script.next.error = none := by
  simp [connection, mem_settled, h.commits]

theorem Conducts.answersExecute_connected {e : Option Fault} :
    script.AnswersExecute (connection address timeout es r) e ↔ script.next.error = e := by
  rw [Script.AnswersExecute, h.sent_connected]
  exact and_iff_right (List.cons_ne_nil _ _)

theorem Conducts.answersCommit_connected {e : Option Fault} :
    script.AnswersCommit (connection address timeout es r) e ↔
      script.next.error = none ∧ script.commitError = e := by
  rw [Script.AnswersCommit, h.commit_connected]

/-- What is done between opening and closing a connection opens and closes none. -/
theorem Conducts.keeps_settled :
    ∀ ev ∈ es ++ settled r, ev.isConnect = false ∧ ev ≠ .close := by
  intro ev hev
  rcases List.mem_append.mp hev with hev | hev
  · exact ⟨(h.keeps ev hev).1, (h.keeps ev hev).2.2⟩
  · rw [(mem_settled.mp hev).1]
    exact ⟨rfl, by simp⟩

theorem Conducts.countP_connected :
    (connection address timeout es r).countP Event.isConnect = 1 := by
  have hnone : (es ++ settled r).countP Event.isConnect = 0 := by
    rw [List.countP_eq_zero]
    intro ev hev
    rw [(h.keeps_settled ev hev).1]
    exact Bool.false_ne_true
  have hsplit : connection address timeout es r =
      [.connect address timeout] ++ (es ++ settled r) ++ [.close] := by
    simp only [connection, List.append_assoc]
  rw [hsplit, List.countP_append, List.countP_append, hnone]
  rfl

theorem Conducts.closes_connected :
    ∃ before, connection address timeout es r = before ++ [.close] ∧ .close ∉ before := by
  refine ⟨_, rfl, ?_⟩
  rw [List.append_assoc, List.mem_append]
  rintro (hopen | hclose)
  · simp at hopen
  · exact (h.keeps_settled _ hclose).2 rfl

theorem Conducts.rollback_connected : .rollback ∈ connection address timeout es r ↔
    ∃ e, isReported e = true ∧
      (script.AnswersExecute (connection address timeout es r) (some e) ∨
        script.AnswersCommit (connection address timeout es r) (some e)) := by
  have hrollback : .rollback ∉ es := fun hmem => (h.keeps _ hmem).2.1 rfl
  have hmem : .rollback ∈ connection address timeout es r ↔
      ∃ e, r = .error e ∧ isReported e = true := by
    simp [connection, hrollback, mem_settled]
  -- what is settled is the error that the statement or committing it ended with
  rw [hmem]
  refine exists_congr fun e => ?_
  rw [h.fails, h.answersExecute_connected, h.answersCommit_connected, and_comm]

end Conducts

theorem orderly_nil {script : Script} : Orderly script [] where
  connects := Nat.zero_le 1
  begins := .inl rfl
  opened := by simp
  closes := by simp
  sends := Nat.zero_le 1
  cursor := fun h => absurd rfl h
  commits := by simp
  rollsBack := by simp

theorem orderly_unconnected {script : Script} {e : Fault} (address : String) (timeout : Int)
    (h : script.connectError = some e) : Orderly script [.connect address timeout] where
  connects := by simp [Event.isConnect]
  begins := .inr ⟨_, _, _, rfl⟩
  opened := by simp [Event.isConnect]
  closes := by simp [Script.AnswersConnect, h]
  sends := Nat.zero_le 1
  cursor := fun hsent => absurd rfl hsent
  commits := by simp [Script.AnswersExecute, sent]
  rollsBack := by simp [Script.AnswersExecute, Script.AnswersCommit, sent]

section Carries

variable {script : Script} {st : String} {params : SentParameters} {r : Except Fault Int}
  {es : List Event}

theorem Carries.conducts (h : Carries script st params r es) :
    Conducts script st params r es where
  sends := by cases h <;> rfl
  commits := by
    cases h with
    | failed hexecute => simp [hexecute]
    | uncommitted hexecute => simp [hexecute]
    | committed hexecute => simp [hexecute]
  fails := by
    intro e
    cases h with
    | failed hexecute => simp [hexecute]
    | uncommitted hexecute hcommit => simp [hexecute, hcommit]
    | committed hexecute hcommit => simp [hexecute, hcommit]
  keeps := by cases h <;> simp [Event.isConnect]

/-- The statement is what a cursor is opened for, and behind it there is nothing but
committing. -/
theorem Carries.cursor (h : Carries script st params r es) :
    ∃ after, es = [.openCursor, .execute st params, .closeCursor] ++ after ∧
      ∀ ev ∈ after, ev = .commit := by
  cases h with
  | failed => exact ⟨[], rfl, by simp⟩
  | uncommitted => exact ⟨[.commit], rfl, by simp⟩
  | committed => exact ⟨[.commit], rfl, by simp⟩

theorem Carries.ok_iff {rows : Int} (h : Carries script st params r es) : r = .ok rows ↔
    (script.next.error = none ∧ script.commitError = none) ∧ rows = script.next.rows := by
  cases h with
  | failed hexecute => simp [hexecute]
  | uncommitted hexecute hcommit => simp [hexecute, hcommit]
  | committed hexecute hcommit => simp [hexecute, hcommit, eq_comm]

/-- What is done on a connection that is made is in order. -/
theorem Carries.orderly_connected (address : String) (timeout : Int)
    (h : Carries script st params r es) (hconnect : script.connectError = none) :
    Orderly script (connection address timeout es r) := by
  have hconducts := h.conducts
  constructor
  case connects => rw [hconducts.countP_connected]
  case begins => exact .inr ⟨_, _, _, rfl⟩
  case opened => exact fun _ _ _ => ⟨by simp [connection, Event.isConnect], hconnect⟩
  case closes => exact fun _ => hconducts.closes_connected _ _
  case sends => rw [hconducts.sent_connected, List.length_singleton]
  case cursor =>
    obtain ⟨after, hes, hafter⟩ := h.cursor
    refine fun _ => ⟨[.connect address timeout], st, params, after ++ settled r ++ [.close], ?_, ?_⟩
    · rw [hes]
      simp only [connection, List.append_assoc]
    -- behind the cursor there is nothing but committing, so no second one is opened
    · have hcommit : ∀ ev : Event, ev ≠ .commit → ev ∉ after :=
        fun ev hne hev => hne (hafter ev hev)
      have hopened := hcommit .openCursor (by simp)
      have hclosed := hcommit .closeCursor (by simp)
      simp [hopened, hclosed, mem_settled]
  case commits => rw [hconducts.commit_connected, hconducts.answersExecute_connected]
  case rollsBack => exact hconducts.rollback_connected _ _

end Carries

namespace Connects

section

variable {α : Type} {target : Target} {Q : Script → Except Fault α → List Event → Prop}
  {script : Script} {r : Except Fault α} {es : List Event} (h : Connects target Q script r es)
include h

/-- Where there is an address, a connection to it is what is asked for first. -/
theorem connects {address : String} {timeout : Int} (htarget : target = .ok (address, timeout)) :
    ∃ after, es = .connect address timeout :: after := by
  cases h with
  | unaddressed hunaddressed =>
    rw [hunaddressed] at htarget
    cases htarget
  | unconnected haddressed =>
    obtain ⟨rfl, rfl⟩ := Prod.mk.inj (Except.ok.inj (haddressed.symm.trans htarget))
    exact ⟨_, rfl⟩
  | connected haddressed =>
    obtain ⟨rfl, rfl⟩ := Prod.mk.inj (Except.ok.inj (haddressed.symm.trans htarget))
    exact ⟨_, rfl⟩

/-- Where there is none, nothing is asked for, and the reason is what is ended with. -/
theorem lacks {e : Fault} (htarget : target = .error e) : es = [] ∧ r = .error e := by
  cases h with
  | unaddressed hunaddressed =>
    rw [Except.error.inj (hunaddressed.symm.trans htarget)]
    exact ⟨rfl, rfl⟩
  | unconnected haddressed =>
    rw [haddressed] at htarget
    cases htarget
  | connected haddressed =>
    rw [haddressed] at htarget
    cases htarget

end

variable {target : Target} {script : Script} {st : String × SentParameters}
  {r : Except Fault Int} {es : List Event}
  (h : Connects target (fun script => Carries script st.1 st.2) script r es)
include h

theorem orderly : Orderly script es := by
  cases h with
  | unaddressed => exact orderly_nil
  | unconnected _ hconnect => exact orderly_unconnected _ _ hconnect
  | connected _ hconnect hcarries => exact hcarries.orderly_connected _ _ hconnect

theorem eq_of_mem_sent {st' : String × SentParameters} (hst' : st' ∈ sent es) :
    st' = st := by
  cases h with
  | unaddressed => cases hst'
  | unconnected => cases hst'
  | connected _ hconnect hcarries =>
    rw [hcarries.conducts.sent_connected] at hst'
    exact List.mem_singleton.mp hst'

theorem ok_iff {rows : Int} :
    r = .ok rows ↔ script.AnswersCommit es none ∧ rows = script.next.rows := by
  cases h with
  | unaddressed => simp
  | unconnected => simp [Script.AnswersCommit]
  | connected _ hconnect hcarries =>
    rw [hcarries.conducts.answersCommit_connected, hcarries.ok_iff]

theorem failed {e : Fault} (he : script.AnswersConnect es (some e) ∨
    script.AnswersExecute es (some e) ∨ script.AnswersCommit es (some e)) : r = .error e := by
  cases h with
  | unaddressed => simp at he
  | unconnected _ hconnect =>
    have hanswer : script.connectError = some e := by
      simpa [Script.AnswersConnect, Script.AnswersExecute, Script.AnswersCommit, Event.isConnect,
        sent] using he
    rw [hconnect] at hanswer
    rw [Option.some.inj hanswer]
  | connected _ hconnect hcarries =>
    rw [hcarries.conducts.answersExecute_connected, hcarries.conducts.answersCommit_connected,
      Script.AnswersConnect, hconnect] at he
    exact (hcarries.conducts.fails e).mpr (by simpa using he)

theorem unaddressed_or_failed {e : Fault} (he : r = .error e) :
    target = .error e ∨ script.AnswersConnect es (some e) ∨
      script.AnswersExecute es (some e) ∨ script.AnswersCommit es (some e) := by
  cases h with
  | unaddressed hunaddressed =>
    obtain rfl := Except.error.inj he
    exact .inl hunaddressed
  | unconnected _ hconnect =>
    obtain rfl := Except.error.inj he
    exact .inr (.inl ⟨rfl, hconnect⟩)
  | connected _ hconnect hcarries =>
    refine .inr (.inr ?_)
    rw [hcarries.conducts.answersExecute_connected, hcarries.conducts.answersCommit_connected]
    exact (hcarries.conducts.fails e).mp he

end Connects

end Database

namespace Executor

/-! ## Calls -/

/-- The fault that a call is stopped by: it is refused, or there is no address to connect to,
or the database answers with it. -/
inductive Call.Stopped (x : Executor) (target : Target) (call : Call) (script : Script)
    (es : List Event) (e : Fault) : Prop
  | refused (refused : call.prepare x = .error e)
  | unaddressed (unaddressed : target = .error e)
  | connect (answered : script.AnswersConnect es (some e))
  | execute (answered : script.AnswersExecute es (some e))
  | commit (answered : script.AnswersCommit es (some e))

/-- A call that keeps the discipline where there is a target to connect to: what it asks for
is in order, and it ends as its statement does. -/
structure Disciplined (x : Executor) (target : Target) (call : Call) (script : Script)
    (r : Except Fault (Option Int)) (es : List Event) : Prop where
  orderly : Database.Orderly script es
  /-- A call with a statement to send connects, if there is an address to connect to. -/
  connects : ∀ st address timeout, call.prepare x = .ok (some st) →
    target = .ok (address, timeout) → ∃ after, es = .connect address timeout :: after
  /-- If there is none, it asks for nothing and raises the reason. -/
  lacks : ∀ st e, call.prepare x = .ok (some st) → target = .error e →
    es = [] ∧ r = .error (call.raised x e)
  /-- What is sent is the statement that the call asks for. -/
  sends : ∀ st ∈ Database.sent es, call.prepare x = .ok (some st)
  /-- An update that has nothing to set asks for nothing. -/
  idles : call.IsIdle x → es = []
  /-- A call returns what it counts exactly if committing succeeds, or nothing is to be set. -/
  returns : ∀ v, r = .ok v ↔
    script.AnswersCommit es none ∧ v = call.count script.next.rows ∨ call.IsIdle x ∧ v = some 0
  /-- A call that does not return raises the one fault that stopped it. -/
  raises : ∀ e', r = .error e' → ∃ e, call.Stopped x target script es e ∧ e' = call.raised x e
  /-- A call that is refused asks for nothing. -/
  refuses : ∀ e, call.prepare x = .error e → es = [] ∧ r = .error (call.raised x e)
  /-- An error that the database answers with is raised. -/
  fails : ∀ e, script.AnswersConnect es (some e) ∨ script.AnswersExecute es (some e) ∨
    script.AnswersCommit es (some e) → r = .error (call.raised x e)

section

variable {x : Executor} {name : ConnectorName} {target : Target} {call : Call} {script : Script}

theorem Call.Course.disciplined_refused {e : Fault} (h : call.prepare x = .error e) :
    x.Disciplined target call script (.error (call.raised x e)) [] := by
  have hbusy : ¬ call.IsIdle x := by
    rw [← Call.prepare_eq_none_iff, h]
    simp
  have hprepared : ∀ st, call.prepare x ≠ .ok (some st) := by
    intro st hst
    rw [h] at hst
    cases hst
  exact
    { orderly := Database.orderly_nil
      connects := fun st _ _ hst => absurd hst (hprepared st)
      lacks := fun st _ hst => absurd hst (hprepared st)
      sends := by simp [Database.sent]
      idles := fun _ => rfl
      returns := by simp [hbusy]
      raises := fun e' he' => ⟨e, .refused h, (Except.error.inj he').symm⟩
      refuses := fun e' he' => by
        obtain rfl := Except.error.inj (h.symm.trans he')
        exact ⟨rfl, rfl⟩
      fails := by simp }

theorem Call.Course.disciplined_idle (h : call.IsIdle x) :
    x.Disciplined target call script (.ok (some 0)) [] where
  orderly := Database.orderly_nil
  connects := fun st _ _ hst => by
    rw [Call.prepare_eq_none_iff.mpr h] at hst
    cases hst
  lacks := fun st _ hst => by
    rw [Call.prepare_eq_none_iff.mpr h] at hst
    cases hst
  sends := by simp [Database.sent]
  idles := fun _ => rfl
  returns := by simp [h, eq_comm]
  raises := fun e' he' => by cases he'
  refuses := fun e he => by
    rw [Call.prepare_eq_none_iff.mpr h] at he
    cases he
  fails := by simp

/-- A call whose statement is sent on a connection of its own ends as the connection does. -/
theorem Call.Course.disciplined_prepared {st : String × SentParameters} {r : Except Fault Int}
    {es : List Event} (h : call.prepare x = .ok (some st))
    (hconnects : Database.Connects target (fun script => Database.Carries script st.1 st.2)
      script r es) :
    x.Disciplined target call script ((r.mapError (call.raised x)).map call.count) es := by
  have hbusy : ¬ call.IsIdle x := by
    rw [← Call.prepare_eq_none_iff, h]
    simp
  -- a fault is told under the name of the operation, so both faults are kept apart
  have herror : ∀ e', (r.mapError (call.raised x)).map call.count = .error e' ↔
      ∃ e, r = .error e ∧ call.raised x e = e' := by
    intro e'
    rw [Except.map_eq_error, Except.mapError_eq_error]
  constructor
  case orderly => exact hconnects.orderly
  case connects => exact fun _ _ _ _ htarget => hconnects.connects htarget
  case lacks =>
    intro _ e _ htarget
    obtain ⟨hes, hr⟩ := hconnects.lacks htarget
    exact ⟨hes, (herror _).mpr ⟨e, hr, rfl⟩⟩
  case sends =>
    intro st' hst'
    rw [hconnects.eq_of_mem_sent hst', h]
  case idles => exact fun hidle => absurd hidle hbusy
  case returns =>
    intro v
    rw [Except.map_eq_ok]
    simp only [Except.mapError_eq_ok, hconnects.ok_iff, hbusy, false_and, or_false]
    constructor
    · rintro ⟨rows, ⟨hcommit, rfl⟩, rfl⟩
      exact ⟨hcommit, rfl⟩
    · rintro ⟨hcommit, rfl⟩
      exact ⟨_, ⟨hcommit, rfl⟩, rfl⟩
  case raises =>
    intro e' he'
    obtain ⟨e, hr, rfl⟩ := (herror e').mp he'
    refine ⟨e, ?_, rfl⟩
    rcases hconnects.unaddressed_or_failed hr with haddress | hanswer | hanswer | hanswer
    · exact .unaddressed haddress
    · exact .connect hanswer
    · exact .execute hanswer
    · exact .commit hanswer
  case refuses =>
    intro e he
    rw [h] at he
    cases he
  case fails =>
    intro e he
    exact (herror _).mpr ⟨e, hconnects.failed he, rfl⟩

/-- Every course keeps the discipline. -/
theorem Call.Course.disciplined {r : Except Fault Int} {es : List Event}
    (h : call.Course x target script r es) :
    x.Disciplined target call script (r.map call.count) es := by
  cases h with
  | refused hrefused => exact disciplined_refused hrefused
  | idle hidle =>
    have hcount : call.count 0 = some 0 := by
      cases call with
      | update row => rfl
      | _ => exact hidle.elim
    show x.Disciplined target call script (.ok (call.count 0)) []
    rw [hcount]
    exact disciplined_idle hidle
  | prepared hprepared hconnects => exact disciplined_prepared hprepared hconnects

/-- Whatever the database answers, a call keeps the discipline. -/
theorem Call.run_disciplined (hx : x.provider = .connector name) (call : Call) :
    (call.run x).Scripted fun s r es =>
      x.Disciplined (name.target s) call s.script r es := by
  refine (call.run_course hx).mono ?_
  rintro s r es ⟨r', hcourse, rfl⟩
  exact hcourse.disciplined

/-! ## Sequences of calls -/

/-- Carries out calls one after another, each with answers that the database has for it, and
hands on how each of them ended. -/
def serve (x : Executor) : List (Call × Script) → Run (List (Except Fault (Option Int)))
  | [] => return []
  | (call, script) :: calls => do
    modify fun s => { s with script }
    let r ← (call.run x).attempt
    let rest ← x.serve calls
    return r :: rest

/-- A table that cannot be committed is rolled back before the connection is closed. -/
example : Happening.events ((serve ⟨visits, .connector .own, .format⟩
    [(.createTable, ⟨none, some (.backend .operational "lost"), []⟩)]).run
      { calmSession with own := some ⟨.default, some "postgresql://"⟩ }).2.happenings =
    [.connect "postgresql://" 10, .openCursor, .execute visits.table .left, .closeCursor,
      .commit, .rollback, .close] := rfl

end

end Executor

end Relvar
