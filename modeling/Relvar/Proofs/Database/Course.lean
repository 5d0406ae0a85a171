/-
The course of a statement on a connection of its own, event by event. There may be no
address to connect to, and connecting, the statement and committing may each fail; what is
asked for afterwards depends on which of them does: a cursor is closed before the connection
is, an error that the database reports is rolled back, and a connection that is made is
closed last.
-/
import Relvar.Proofs.Database.Sending
import Relvar.Proofs.Outcome

set_option autoImplicit false

namespace Relvar

namespace Database

/-! ## What is done on a connection -/

/-- What is done on an open connection to carry out a statement, with what it ends with: the
statement fails, or committing it does, or it is committed. Its cursor is closed first. -/
inductive Carries (script : Script) (st : String) (params : SentParameters) :
    Except Fault Int → List Event → Prop
  | failed {e : Fault} (execute : script.next.error = some e) :
      Carries script st params (.error e) [.openCursor, .execute st params, .closeCursor]
  | uncommitted {e : Fault} (execute : script.next.error = none)
      (commit : script.commitError = some e) :
      Carries script st params (.error e)
        [.openCursor, .execute st params, .closeCursor, .commit]
  | committed (execute : script.next.error = none) (commit : script.commitError = none) :
      Carries script st params (.ok script.next.rows)
        [.openCursor, .execute st params, .closeCursor, .commit]

/-- What is asked for at the end of what was done on an open connection: an error that the
database reports is rolled back. -/
def settled {α : Type} : Except Fault α → List Event
  | .ok _ => []
  | .error e => if isReported e then [.rollback] else []

/-- The events of a connection that is made: what is done on it is settled, and it is closed. -/
def connection {α : Type} (address : String) (timeout : Int) (es : List Event)
    (r : Except Fault α) : List Event :=
  [.connect address timeout] ++ es ++ settled r ++ [.close]

end Database

namespace Run

variable {α β : Type} {m : Run α} {f : α → Run β}

/-! ## Runs as sessions say -/

/-- A run that ends, and has a trace, as the session says that it starts in: the script of the
database and all else there is but the log. -/
def Scripted (m : Run α)
    (Q : Session → Except Fault α → List Database.Event → Prop) : Prop :=
  m.Does fun s r es _ => Q s.world r es

section Scripted

variable {Q Q' : Session → Except Fault α → List Database.Event → Prop}
  {P : Session → Except Fault β → List Database.Event → Prop}

theorem Scripted.mono (h : m.Scripted Q) (imp : ∀ s r es, Q s r es → Q' s r es) :
    m.Scripted Q' :=
  Does.mono h fun _ _ _ _ hQ => imp _ _ _ hQ

theorem Scripted.within (change : Log.Context → Log.Context) (h : m.Scripted Q) :
    (within change m).Scripted Q := by
  refine (Does.within change h).mono ?_
  rintro s r es t ⟨s', t', hs, -, hQ⟩
  rwa [hs] at hQ

theorem Scripted.after {a : α} (hm : m.Answers (.ok a)) (h : (f a).Scripted P) :
    (m >>= f).Scripted P := by
  refine (Does.after hm h).mono ?_
  rintro s r es t ⟨s', hs, hP⟩
  rwa [hs] at hP

/-- An answer does not depend on the session. -/
theorem Answers.scripted {r : Except Fault α} (h : m.Answers r) :
    m.Scripted fun _ r' es => r' = r ∧ es = [] :=
  Does.mono h fun _ _ _ _ ⟨hr, hes, _⟩ => ⟨hr, hes⟩

/-- What is made of the outcome of a run that is attempted asks for nothing. -/
theorem Scripted.attempt {f : Except Fault α → Run β} {g : Except Fault α → Except Fault β}
    (h : m.Scripted Q) (hf : ∀ r, (f r).Answers (g r)) :
    (m.attempt >>= f).Scripted fun s r es => ∃ r', Q s r' es ∧ r = g r' := by
  refine (Does.bind_ok (Does.attempt h) hf).mono ?_
  rintro s r es t ⟨r', u, es₁, es₂, rfl, hQ, rfl, rfl, -⟩
  rw [List.append_nil]
  exact ⟨r', hQ, rfl⟩

/-- What is made of the value that a run ends with asks for nothing. -/
theorem Scripted.map {g : α → β} (h : m.Scripted Q) (hf : ∀ a, (f a).Answers (.ok (g a))) :
    (m >>= f).Scripted fun s r es => ∃ r', Q s r' es ∧ r = r'.map g := by
  refine (Does.bind h hf).mono ?_
  rintro s r es t (⟨e, rfl, hQ⟩ | ⟨a, u, es₁, es₂, rfl, hQ, rfl, rfl, -⟩)
  · exact ⟨_, hQ, rfl⟩
  · rw [List.append_nil]
    exact ⟨_, hQ, rfl⟩

end Scripted

end Run

namespace Database

open Run (Answers)

/-! ## The statement -/

/-- How a statement ends. -/
def Outcome.result (o : Outcome) : Except Fault Outcome := (ended o.error).map fun _ => o

theorem ended_eq_ok {e : Option Fault} {u : Unit} : ended e = .ok u ↔ e = none := by
  cases e <;> simp [ended]

theorem ended_eq_error {e : Option Fault} {e' : Fault} : ended e = .error e' ↔ e = some e' := by
  cases e <;> simp [ended]

theorem Outcome.result_eq_ok {o o' : Outcome} : o.result = .ok o' ↔ o = o' ∧ o.error = none := by
  rw [result, Except.map_eq_ok]
  constructor
  · rintro ⟨u, hu, rfl⟩
    exact ⟨rfl, ended_eq_ok.mp hu⟩
  · rintro ⟨rfl, ho⟩
    exact ⟨(), ended_eq_ok.mpr ho, rfl⟩

theorem Outcome.result_eq_error {o : Outcome} {e : Fault} :
    o.result = .error e ↔ o.error = some e := by
  rw [result, Except.map_eq_error, ended_eq_error]

theorem nextOutcome_does : nextOutcome.Does fun s r es t => ∃ o, r = .ok o ∧
    o = s.script.next ∧ es = [] ∧ t.script = s.script.advance := by
  intro s
  rw [Run.run_nextOutcome]
  exact ⟨[], (List.append_nil _).symm, _, rfl, rfl, rfl, rfl⟩

theorem execute_does (st : String) (params : SentParameters) :
    (execute st params).Does fun s r es t => r = s.script.next.result ∧
      es = [.execute st params] ∧ t.script = s.script.advance := by
  have hend : ∀ o : Outcome, (do failWith o.error; return o : Run Outcome).Answers o.result := by
    intro o
    have hfail := (failWith_answers o.error).bind fun _ => Answers.pure o
    rw [Outcome.result]
    cases ho : o.error with
    | none => rwa [ho] at hfail
    | some e => rwa [ho] at hfail
  refine (Run.Does.bind_eq (Run.Does.ask _) (Run.Does.bind_ok nextOutcome_does hend)).mono ?_
  rintro s r es t ⟨s', es₁, es₂, rfl, ⟨rfl, rfl⟩, o, u, es₃, es₄, rfl, ⟨rfl, rfl, hu⟩, rfl, rfl, ht⟩
  exact ⟨rfl, rfl, (Run.script_of_world ht).trans hu⟩

theorem withCursor_does (st : String) (params : SentParameters) :
    (withCursor (execute st params)).Does fun s r es t => r = s.script.next.result ∧
      es = [.openCursor, .execute st params, .closeCursor] ∧ t.script = s.script.advance := by
  refine (Run.Does.bind_eq (Run.Does.ask _) (Run.Does.bind_ok
    (Run.Does.attempt (execute_does st params)) fun r => Run.Does.bind_eq (Run.Does.ask _)
      (Run.Does.ofExcept r))).mono ?_
  rintro s r es t ⟨s', es₁, es₂, rfl, ⟨rfl, rfl⟩, r', u, es₃, es₄, rfl, ⟨rfl, rfl, hu⟩,
    u', es₅, es₆, rfl, ⟨rfl, rfl⟩, rfl, rfl, rfl⟩
  exact ⟨rfl, rfl, hu⟩

theorem commit_does : commit.Does fun s r es t =>
    r = ended s.script.commitError ∧ es = [.commit] ∧ t.script = s.script := by
  have hend := Run.Does.get_bind fun s => failWith_answers s.script.commitError
  refine (Run.Does.bind_eq (Run.Does.ask _) hend).mono ?_
  rintro s r es t ⟨s', es₁, es₂, rfl, ⟨rfl, rfl⟩, rfl, rfl, ht⟩
  exact ⟨rfl, rfl, Run.script_of_world ht⟩

/-- A statement is carried out as the script says. -/
theorem carries (st : String) (params : SentParameters) : (do
    let o ← withCursor (execute st params)
    commit
    return o.rows : Run Int).Scripted fun s r es => Carries s.script st params r es := by
  refine (Run.Does.bind (withCursor_does st params) fun o => Run.Does.bind commit_does fun _ =>
    Run.Does.pure o.rows).mono ?_
  rintro s r es t (⟨e, rfl, hr, rfl, -⟩ | ⟨o, u, es₁, es₂, rfl, ⟨hr, rfl, hu⟩, hrest⟩)
  · exact .failed (Outcome.result_eq_error.mp hr.symm)
  · obtain ⟨rfl, hexecute⟩ := Outcome.result_eq_ok.mp hr.symm
    -- the statement leaves the answer to committing as it was
    have hcommit : u.script.commitError = s.script.commitError := by
      rw [hu]
      rfl
    rcases hrest with ⟨e, rfl, hended, rfl, -⟩ |
      ⟨_, u', es₃, es₄, rfl, ⟨hended, rfl, -⟩, rfl, rfl, -⟩
    · rw [hcommit] at hended
      exact .uncommitted hexecute (ended_eq_error.mp hended.symm)
    · rw [hcommit] at hended
      exact .committed hexecute (ended_eq_ok.mp hended.symm)

/-! ## The connection -/

/-- Connecting to a target asks for nothing if it has no address, and ends as the script says
if it has one. -/
inductive Establishes (target : Target) (script : Script) :
    Except Fault Unit → List Event → Script → Prop
  | unaddressed {e : Fault} (unaddressed : target = .error e) :
      Establishes target script (.error e) [] script
  | addressed {address : String} {timeout : Int} (addressed : target = .ok (address, timeout)) :
      Establishes target script (ended script.connectError) [.connect address timeout] script

/-- What is done on a connection of its own to a target, with what it ends with: there is no
address to connect to, or connecting fails, or something is done on a connection that is
closed afterwards. -/
inductive Connects {α : Type} (target : Target) (Q : Script → Except Fault α → List Event → Prop)
    (script : Script) : Except Fault α → List Event → Prop
  | unaddressed {e : Fault} (unaddressed : target = .error e) :
      Connects target Q script (.error e) []
  | unconnected {address : String} {timeout : Int} {e : Fault}
      (addressed : target = .ok (address, timeout)) (connect : script.connectError = some e) :
      Connects target Q script (.error e) [.connect address timeout]
  | connected {address : String} {timeout : Int} {r : Except Fault α} {es : List Event}
      (addressed : target = .ok (address, timeout)) (connect : script.connectError = none)
      (done : Q script r es) : Connects target Q script r (connection address timeout es r)

end Database

namespace ConnectorName

open Run (Answers)

variable (name : ConnectorName)

/-- Connecting to an address ends as the script says. -/
theorem connect_does (address : String) (timeout : Int) : (do
    Run.ask (.connect address timeout)
    match (← MonadState.get).script.connectError with
    | none => writer.debug "PostgreSQL connection established"
    | some e =>
      tellReported e
      throw e : Run Unit).Does fun s r es t => r = Database.ended s.script.connectError ∧
        es = [.connect address timeout] ∧ t.script = s.script := by
  have hend := Run.Does.get_bind fun s => connected_answers s.script.connectError
  refine (Run.Does.bind_eq (Run.Does.ask _) hend).mono ?_
  rintro s r es t ⟨s', es₁, es₂, rfl, ⟨rfl, rfl⟩, rfl, rfl, ht⟩
  exact ⟨rfl, rfl, Run.script_of_world ht⟩

/-- A connection is made to what the session has for the connector to connect to. -/
theorem establish_does : name.establish.Does fun s r es t =>
    Database.Establishes (name.target s) s.script r es t.script := by
  refine (Run.Does.after (Run.Silent.debug _ _) (Run.Does.bind name.get_does fun c =>
    Run.Does.bind name.address_does fun address => connect_does address c.settings.timeout)).mono ?_
  rintro s r es t ⟨s', hs, hfound⟩
  rw [← name.target_of_world hs, ← Run.script_of_world hs]
  -- nothing is asked for until there is an address
  rcases hfound with ⟨e, rfl, he, rfl, hkeeps, -⟩ |
    ⟨c, u, es₁, es₂, rfl, ⟨hc, rfl, hu, hfind⟩, haddress⟩
  · rw [hkeeps.script]
    exact .unaddressed (name.target_of_connector_error he.symm)
  rw [← hu.target, ← hu.script]
  rcases haddress with ⟨e, rfl, he, rfl, hkeeps⟩ |
    ⟨address, v, es₃, es₄, rfl, ⟨haddress, rfl, hv⟩, rfl, rfl, ht⟩
  · rw [hkeeps.script]
    exact .unaddressed (Except.map_eq_error.mp he.symm)
  · rw [ht, hv.script]
    exact .addressed (name.target_of_address (hfind c rfl) haddress.symm)

theorem settle_does {α : Type} (r : Except Fault α) : (settle r).Does fun s r' es t =>
    r' = .ok () ∧ es = Database.settled r ∧ t.script = s.script := by
  cases r with
  | ok a =>
    refine (Run.Does.pure ()).mono ?_
    rintro s r' es t ⟨rfl, rfl, rfl⟩
    exact ⟨rfl, rfl, rfl⟩
  | error e =>
    refine (Run.Does.bind_eq (silent_tellReported e) (T := fun s r' es t => r' = .ok () ∧
      es = Database.settled (.error e : Except Fault α) ∧ t.script = s.script) ?_).mono ?_
    · rw [Database.settled]
      -- only operational faults are rolled back
      by_cases he : Database.isReported e = true
      · rw [if_pos he, if_pos he]
        refine (Run.Does.ask .rollback).mono ?_
        rintro s r' es t ⟨rfl, rfl, rfl⟩
        exact ⟨rfl, rfl, rfl⟩
      · rw [if_neg he, if_neg he]
        refine (Run.Does.pure ()).mono ?_
        rintro s r' es t ⟨rfl, rfl, rfl⟩
        exact ⟨rfl, rfl, rfl⟩
    · rintro s r' es t ⟨u, es₁, es₂, rfl, ⟨rfl, hu⟩, hr, hes, ht⟩
      exact ⟨hr, hes, ht.trans (Run.script_of_world hu)⟩

/-- What is done on a connection of its own, if what is done on the open connection depends on
the script alone. -/
theorem withConnection_connects {α : Type} {m : Run α}
    {Q : Database.Script → Except Fault α → List Database.Event → Prop}
    (h : m.Scripted fun s r es => Q s.script r es) : (name.withConnection m).Scripted
      fun s r es => Database.Connects (name.target s) Q s.script r es := by
  -- on an open connection, whatever is done is settled and the connection is closed
  have hopen : (do
      let r ← m.attempt
      settle r
      Run.ask .close
      Run.ofExcept r : Run α).Does fun s r es _ => ∃ es', Q s.script r es' ∧
        es = es' ++ Database.settled r ++ [.close] := by
    refine (Run.Does.bind_ok (Run.Does.attempt h) fun r => Run.Does.bind_eq (settle_does r)
      (Run.Does.bind_eq (Run.Does.ask .close) (Run.Does.ofExcept r))).mono ?_
    rintro s r es t ⟨r', u, es₁, es₂, rfl, hQ, u', es₃, es₄, rfl, ⟨rfl, -⟩,
      u'', es₅, es₆, rfl, ⟨rfl, -⟩, rfl, rfl, -⟩
    exact ⟨es₁, hQ, by rw [List.append_nil, List.append_assoc]⟩
  refine (Database.onScript_does (Run.Does.bind name.establish_does fun _ => hopen)).mono ?_
  rintro s r es t ⟨t', hdone, -⟩
  rw [name.target_world]
  rcases hdone with ⟨e, rfl, hestablish⟩ | ⟨_, u, es₁, es₂, rfl, hestablish, es', hQ, rfl⟩
  · generalize hr : (Except.error e : Except Fault Unit) = r', t'.script = script at hestablish
    cases hestablish with
    | unaddressed hunaddressed =>
      obtain rfl := Except.error.inj hr
      exact .unaddressed hunaddressed
    | addressed haddressed => exact .unconnected haddressed (Database.ended_eq_error.mp hr.symm)
  · generalize hr : (Except.ok _ : Except Fault Unit) = r', u.script = script at hestablish hQ
    cases hestablish with
    | unaddressed => cases hr
    | @addressed address timeout haddressed =>
      have hes : [.connect address timeout] ++ (es' ++ Database.settled r ++ [.close]) =
          Database.connection address timeout es' r := by
        simp only [Database.connection, List.append_assoc]
      rw [hes]
      exact .connected haddressed (Database.ended_eq_ok.mp hr.symm) hQ

end ConnectorName

end Relvar
