/-
What is sent on connections. A run is quiet if it sends no statement, whatever else it
asks the database for. What is done on a connection happens once if the connection is
made, and not at all if it is not; opening, settling and closing it are quiet.
-/
import Relvar.Proofs.Database.Target

set_option autoImplicit false

namespace Relvar

/-- The statements among events, with the parameters that are sent along. -/
def Database.sent : List Database.Event → List (String × Database.SentParameters)
  | [] => []
  | .execute statement params :: es => (statement, params) :: sent es
  | _ :: es => sent es

theorem Database.sent_append (es fs : List Database.Event) :
    sent (es ++ fs) = sent es ++ sent fs := by
  induction es with
  | nil => rfl
  | cons e es ih => cases e <;> simp [sent, ih]

namespace Run

open Database (sent sent_append)

variable {α β : Type} {m : Run α} {f : α → Run β} {st : String × Database.SentParameters}

/-- A run that sends no statement. -/
def Quiet (m : Run α) : Prop := m.Does fun _ _ es _ => sent es = []

/-- A run that sends one statement, however it ends. -/
def SendsOnce (m : Run α) (st : String × Database.SentParameters) : Prop :=
  m.Does fun _ _ es _ => sent es = [st]

/-! ## Quiet runs -/

theorem Answers.quiet {r : Except Fault α} (h : m.Answers r) : m.Quiet :=
  Does.mono h fun _ _ _ _ ⟨_, hes, _⟩ => by rw [hes]; rfl

/-- Behind a run a quiet run leaves what was sent as it is. -/
theorem sent_bind {sts : List (String × Database.SentParameters)}
    (h : m.Does fun _ _ es _ => sent es = sts) (hf : ∀ a, (f a).Quiet) :
    (m >>= f).Does fun _ _ es _ => sent es = sts := by
  refine (Does.bind h hf).mono ?_
  rintro s r es t (⟨e, rfl, hes⟩ | ⟨a, u, es₁, es₂, rfl, hes₁, hes₂⟩)
  · exact hes
  · rw [sent_append, hes₁, hes₂, List.append_nil]

theorem Quiet.bind (h : m.Quiet) (hf : ∀ a, (f a).Quiet) : (m >>= f).Quiet := sent_bind h hf

theorem Quiet.pure (a : α) : (pure a : Run α).Quiet := (Answers.pure a).quiet

theorem Quiet.ofExcept (r : Except Fault α) : (ofExcept r).Quiet := (Answers.ofExcept r).quiet

theorem Quiet.ask {e : Database.Event} (he : sent [e] = []) : (Run.ask e).Quiet :=
  (Does.ask e).mono fun _ _ _ _ ⟨_, hes, _⟩ => hes ▸ he

theorem Quiet.get : (get : Run Session).Quiet :=
  Does.get.mono fun _ _ _ _ ⟨_, hes, _⟩ => by rw [hes]; rfl

/-! ## Runs that send one statement -/

theorem SendsOnce.bind (h : m.SendsOnce st) (hf : ∀ a, (f a).Quiet) : (m >>= f).SendsOnce st :=
  sent_bind h hf

/-- Asking for something never fails, so what comes after it is done. -/
theorem SendsOnce.after_ask {m : Run β} {e : Database.Event} (he : sent [e] = [])
    (h : m.SendsOnce st) : (Run.ask e >>= fun _ => m).SendsOnce st := by
  refine (Does.bind (Does.ask e) fun _ => h).mono ?_
  rintro s r es t (⟨e', -, herror, -⟩ | ⟨a, u, es₁, es₂, rfl, ⟨-, rfl, -⟩, hes₂⟩)
  · cases herror
  · rw [sent_append, he, hes₂]
    rfl

theorem SendsOnce.attempt (h : m.SendsOnce st) : m.attempt.SendsOnce st :=
  (Does.attempt h).mono fun _ _ _ _ ⟨_, _, hes⟩ => hes

theorem SendsOnce.thenAlways {cleanUp : Run Unit} (h : m.SendsOnce st) (hc : cleanUp.Quiet) :
    (m.thenAlways cleanUp).SendsOnce st :=
  h.attempt.bind fun r => hc.bind fun _ => Quiet.ofExcept r

end Run

/-! ## Statements -/

namespace Database

open Run (Answers Quiet SendsOnce)

theorem quiet_nextOutcome : Quiet nextOutcome := by
  intro s
  rw [Run.run_nextOutcome]
  exact ⟨[], (List.append_nil _).symm, rfl⟩

/-- How something ends that fails with an error, if there is one. -/
def ended : Option Fault → Except Fault Unit
  | none => .ok ()
  | some e => .error e

theorem failWith_answers (e : Option Fault) : (failWith e).Answers (ended e) := by
  cases e with
  | none => exact Answers.pure ()
  | some e => exact Answers.throw e

theorem execute_sendsOnce (statement : String) (params : SentParameters) :
    SendsOnce (execute statement params) (statement, params) := by
  have hask : SendsOnce (Run.ask (.execute statement params)) (statement, params) :=
    (Run.Does.ask _).mono fun _ _ _ _ ⟨_, hes, _⟩ => by rw [hes]; rfl
  exact hask.bind fun _ => quiet_nextOutcome.bind fun o =>
    (failWith_answers o.error).quiet.bind fun _ => Quiet.pure o

theorem withCursor_sendsOnce {α : Type} {m : Run α} {st : String × SentParameters}
    (h : m.SendsOnce st) : SendsOnce (withCursor m) st :=
  SendsOnce.after_ask rfl (h.thenAlways (Quiet.ask rfl))

theorem quiet_commit : Quiet commit :=
  (Quiet.ask rfl).bind fun _ => Quiet.get.bind fun s =>
    (failWith_answers s.script.commitError).quiet

/-- A run with a script of its own does what it does without; only the session that it leaves
behind goes on with the script that was upcoming. -/
theorem onScript_does {α : Type} {m : Run α}
    {P : Session → Except Fault α → List Event → Session → Prop} (h : m.Does P) :
    (onScript m).Does fun s r es t => ∃ u, P s r es u ∧ t = ((goOn s.upcoming).run u).2 := by
  intro s
  obtain ⟨es, hes, hP⟩ := h s
  -- going on with the next script is one change of the session that no happening depends on
  have hgoOn : ∀ scripts, ∃ change : Session → Session,
      (∀ u, (change u).happenings = u.happenings) ∧ goOn scripts = modify change := by
    intro scripts
    cases scripts with
    | nil => exact ⟨id, fun _ => rfl, rfl⟩
    | cons script rest =>
      exact ⟨fun u => { u with script := script, upcoming := rest }, fun _ => rfl, rfl⟩
  obtain ⟨change, hkeep, hchange⟩ := hgoOn s.upcoming
  have hrun : (onScript m).run s = ((m.run s).1, ((goOn s.upcoming).run (m.run s).2).2) := by
    rw [onScript, Run.run_bind, Run.run_get]
    simp only [Run.thenAlways, Run.run_bind, Run.run_attempt, hchange, Run.run_modify,
      Run.run_ofExcept]
  rw [hrun]
  refine ⟨es, ?_, (m.run s).2, hP, rfl⟩
  rw [hchange, Run.run_modify, hkeep, hes]

end Database

/-! ## Connectors -/

namespace ConnectorName

open Run (Answers Quiet SendsOnce)

variable (name : ConnectorName)

theorem quiet_get : Quiet name.get :=
  name.get_does.mono fun _ _ _ _ ⟨_, hes, _⟩ => by rw [hes]; rfl

theorem quiet_address : Quiet name.address :=
  name.address_does.mono fun _ _ _ _ ⟨_, hes, _⟩ => by rw [hes]; rfl

theorem silent_tellReported (e : Fault) : Run.Silent (tellReported e) := by
  unfold tellReported
  split
  · exact Run.Silent.error _ _
  · exact Answers.pure ()

/-- What is made of the answer to connecting. -/
theorem connected_answers (e : Option Fault) : (match e with
    | none => writer.debug "PostgreSQL connection established"
    | some e => do
      tellReported e
      throw e : Run Unit).Answers (Database.ended e) := by
  cases e with
  | none => exact Run.Silent.debug _ _
  | some e => exact (silent_tellReported e).after (Answers.throw e)

theorem quiet_establish : Quiet name.establish :=
  (Run.Silent.debug _ _).quiet.bind fun _ => name.quiet_get.bind fun _ =>
    name.quiet_address.bind fun _ => (Quiet.ask rfl).bind fun _ =>
      Quiet.get.bind fun s => (connected_answers s.script.connectError).quiet

theorem quiet_settle {α : Type} (r : Except Fault α) : Quiet (settle r) := by
  cases r with
  | ok a => exact Quiet.pure ()
  | error e =>
    refine (silent_tellReported e).quiet.bind fun _ => ?_
    split
    · exact Quiet.ask rfl
    · exact Quiet.pure ()

/-- A connector whose address is known, to a database that lets it connect. -/
def Ready (s : Session) : Prop :=
  s.script.connectError = none ∧ ∃ c address, name.find? s = some c ∧ c.address = some address

theorem ready_congr {s t : Session} (h : t.world = s.world) : name.Ready t ↔ name.Ready s := by
  rw [Ready, Ready, Run.script_of_world h, name.find?_of_world h]

/-- A connector that is ready connects. -/
theorem establish_ready {s : Session} (h : name.Ready s) : (name.establish.run s).1 = .ok () := by
  have hdebug := Run.Silent.debug writer "Connecting to PostgreSQL..."
  have hready := (name.ready_congr (hdebug.world s)).mpr h
  rw [establish, hdebug.run_bind _ s]
  -- what is logged leaves another session, and the connector is ready in that one
  revert hready
  generalize ((writer.debug "Connecting to PostgreSQL...").run s).2 = t
  rintro ⟨hconnect, c, address, hc, haddress⟩
  have hget := name.get_found hc
  have hknown : name.address.run t = (.ok address, t) := by
    simp [ConnectorName.address, Run.run_bind, hget, haddress]
  simp [Run.run_bind, hget, hknown, Run.ask, Run.happen, hconnect,
    (Run.Silent.debug writer "PostgreSQL connection established").outcome]

/-- What is done on a connection is done once; if the connection is not made, it is not
done, and the run fails. -/
theorem withConnection_sends {α : Type} {m : Run α} {st : String × Database.SentParameters}
    (h : m.SendsOnce st) : (name.withConnection m).Does fun s r es _ =>
      Database.sent es = [st] ∨
        Database.sent es = [] ∧ (∃ e, r = .error e) ∧ ¬ name.Ready s := by
  have hestablish : name.establish.Does fun s r es _ =>
      Database.sent es = [] ∧ ((∃ e, r = .error e) → ¬ name.Ready s) := by
    intro s
    obtain ⟨es, hes, hquiet⟩ := name.quiet_establish s
    refine ⟨es, hes, hquiet, ?_⟩
    rintro ⟨e, he⟩ hready
    rw [name.establish_ready hready] at he
    cases he
  have hdone : ∀ u : Unit, SendsOnce (do
      let r ← m.attempt
      settle r
      Run.ask .close
      Run.ofExcept r) st := fun _ =>
    h.attempt.bind fun r => (quiet_settle r).bind fun _ =>
      (Quiet.ask rfl).bind fun _ => Quiet.ofExcept r
  refine (Database.onScript_does (Run.Does.bind hestablish hdone)).mono ?_
  rintro s r es t ⟨u, ⟨e, rfl, hes, hready⟩ | ⟨u, s', es₁, es₂, rfl, ⟨hes₁, -⟩, hes₂⟩, -⟩
  · exact .inr ⟨hes, ⟨e, rfl⟩, hready ⟨e, rfl⟩⟩
  · rw [Database.sent_append, hes₁, hes₂]
    exact .inl rfl

end ConnectorName

end Relvar
