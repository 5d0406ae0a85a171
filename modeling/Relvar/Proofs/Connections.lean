/-
How a migration uses connections. Testing the connection and creating a table each take a
connection of their own for one statement, which is committed before its cursor is closed;
the connection is closed before the next one is asked for. All connections are made to what
the session has for the connector to connect to. Whatever the database answers on each of
them, a migration attempts its steps in order up to the first that fails.
-/
import Relvar.Proofs.Discipline
import Relvar.Proofs.Migration

set_option autoImplicit false

namespace Relvar

open Database (Event Script SentParameters Target)

namespace Database

/-! ## Completing a statement -/

/-- What is done on an open connection to complete a statement, with what it ends with: the
statement fails, or committing it does, or it is committed. What it found is fetched before it
is committed, and its cursor is closed last. -/
inductive Completes {α : Type} (script : Script) (st : String) (params : SentParameters)
    (fetches : List Event) : Except Fault α → List Event → Prop
  | failed {e : Fault} (execute : script.next.error = some e) :
      Completes script st params fetches (.error e)
        [.openCursor, .execute st params, .closeCursor]
  | uncommitted {e : Fault} (execute : script.next.error = none)
      (commit : script.commitError = some e) :
      Completes script st params fetches (.error e)
        ([Event.openCursor, .execute st params] ++ fetches ++ [Event.commit, .closeCursor])
  | committed (a : α) (execute : script.next.error = none) (commit : script.commitError = none) :
      Completes script st params fetches (.ok a)
        ([Event.openCursor, .execute st params] ++ fetches ++ [Event.commit, .closeCursor])

/-- A statement is completed as the script says. -/
theorem completes {α : Type} {fetch : Outcome → Run α} {fetches : List Event} (st : String)
    (params : SentParameters)
    (hfetch : ∀ o, (fetch o).Does fun s r es t =>
      (∃ a, r = .ok a) ∧ es = fetches ∧ t.script = s.script) :
    (withCursor do
      let a ← execute st params >>= fetch
      commit
      return a : Run α).Scripted fun s r es => Completes s.script st params fetches r es := by
  -- what is done with the cursor before it is closed
  have hstatement : (do
      let a ← execute st params >>= fetch
      commit
      return a : Run α).Does fun s r es _ => ∃ es', es = .execute st params :: es' ∧
        Completes s.script st params fetches r
          ([Event.openCursor, .execute st params] ++ es' ++ [Event.closeCursor]) := by
    refine (Run.Does.bind (Run.Does.bind (execute_does st params) hfetch) fun a =>
      Run.Does.bind commit_does fun _ => Run.Does.pure a).mono ?_
    rintro s r es t (⟨e, rfl, hfail⟩ | ⟨a, u, es₁, es₂, rfl, hdone, hcommit⟩)
    · rcases hfail with ⟨e', herror, hr, rfl, -⟩ | ⟨o, u, es₁, es₂, rfl, -, ⟨a, ha⟩, -⟩
      · obtain rfl := Except.error.inj herror
        exact ⟨[], rfl, .failed (Outcome.result_eq_error.mp hr.symm)⟩
      · cases ha
    · rcases hdone with ⟨e', herror, -⟩ | ⟨o, u', es₃, es₄, rfl, ⟨hr, rfl, hu'⟩, -, rfl, hu⟩
      · cases herror
      · obtain ⟨rfl, hexecute⟩ := Outcome.result_eq_ok.mp hr.symm
        -- the statement leaves the answer to committing as it was
        have hanswer : u.script.commitError = s.script.commitError := by
          rw [hu, hu']
          rfl
        rcases hcommit with ⟨e, rfl, hended, rfl, -⟩ |
          ⟨_, v, es₅, es₆, rfl, ⟨hended, rfl, -⟩, rfl, rfl, -⟩
        · rw [hanswer] at hended
          have hcompletes : Completes s.script st params es₄ (.error e : Except Fault α)
              ([Event.openCursor, .execute st params] ++ es₄ ++ [Event.commit, .closeCursor]) :=
            .uncommitted hexecute (ended_eq_error.mp hended.symm)
          exact ⟨es₄ ++ [Event.commit], rfl, by simpa using hcompletes⟩
        · rw [hanswer] at hended
          have hcompletes : Completes s.script st params es₄ (.ok a)
              ([Event.openCursor, .execute st params] ++ es₄ ++ [Event.commit, .closeCursor]) :=
            .committed a hexecute (ended_eq_ok.mp hended.symm)
          exact ⟨es₄ ++ [Event.commit], rfl, by simpa using hcompletes⟩
  refine (Run.Does.bind_eq (Run.Does.ask .openCursor) (Run.Does.bind_ok
    (Run.Does.attempt hstatement) fun r => Run.Does.bind_eq (Run.Does.ask .closeCursor)
      (Run.Does.ofExcept r))).mono ?_
  rintro s r es t ⟨s', es₁, es₂, rfl, ⟨rfl, rfl⟩, r', u, es₃, es₄, rfl, ⟨es', rfl, hcompletes⟩,
    u', es₅, es₆, rfl, ⟨rfl, -⟩, rfl, rfl, -⟩
  exact hcompletes

theorem Completes.conducts {α : Type} {script : Script} {st : String} {params : SentParameters}
    {fetches : List Event} {r : Except Fault α} {es : List Event}
    (h : Completes script st params fetches r es) (hfetches : ∀ ev ∈ fetches, ev = .fetchRow) :
    Conducts script st params r es := by
  -- fetching rows sends nothing
  have hsent : sent fetches = [] := by
    rw [List.eq_replicate_of_mem hfetches]
    generalize fetches.length = n
    induction n with
    | zero => rfl
    | succ n ih => exact ih
  have hnone : ∀ ev : Event, ev ≠ .fetchRow → ev ∉ fetches :=
    fun ev hne hev => hne (hfetches ev hev)
  -- whatever stands between the connection and its end is no event that makes or ends one
  have hkeeps : ∀ ev ∈
      [Event.openCursor, .execute st params] ++ fetches ++ [Event.commit, .closeCursor],
      ev.isConnect = false ∧ ev ≠ .rollback ∧ ev ≠ .close := by
    intro ev hev
    simp only [List.mem_append, List.mem_cons, List.not_mem_nil, or_false] at hev
    rcases hev with ((rfl | rfl) | hev) | rfl | rfl
    case inl.inr =>
      rw [hfetches ev hev]
      exact ⟨rfl, by simp, by simp⟩
    all_goals exact ⟨rfl, by simp, by simp⟩
  constructor
  case sends => cases h <;> simp [sent_append, sent, hsent]
  case commits =>
    cases h with
    | failed hexecute => simp [hexecute]
    | uncommitted hexecute => simp [hexecute]
    | committed _ hexecute => simp [hexecute]
  case fails =>
    intro e
    cases h with
    | failed hexecute => simp [hexecute]
    | uncommitted hexecute hcommit => simp [hexecute, hcommit]
    | committed _ hexecute hcommit => simp [hexecute, hcommit]
  case keeps =>
    cases h with
    | failed => simp [Event.isConnect]
    | uncommitted => exact hkeeps
    | committed => exact hkeeps

/-- The discipline does not depend on the value that is ended with. -/
theorem Conducts.forget {α : Type} {script : Script} {st : String} {params : SentParameters}
    {r : Except Fault α} {es : List Event} (h : Conducts script st params r es) :
    Conducts script st params (r.map fun _ => ()) es where
  sends := h.sends
  commits := h.commits
  fails := fun e => by rw [Except.map_eq_error, h.fails]
  keeps := h.keeps

/-! ## Scripts of connections -/

/-- Connections that are used one after another, with a script for each of them. A connection
that is refused is not open; one that is made is closed before the next one is asked for, and
at the end. A script may be left unused. -/
inductive Serial : List Script → List Event → Prop
  | nil : Serial [] []
  | unused {script : Script} {scripts : List Script} {es : List Event}
      (rest : Serial scripts es) : Serial (script :: scripts) es
  | refused {script : Script} {scripts : List Script} {es : List Event} {e : Fault}
      (address : String) (timeout : Int) (connect : script.connectError = some e)
      (rest : Serial scripts es) : Serial (script :: scripts) (.connect address timeout :: es)
  | used {script : Script} {scripts : List Script} {during es : List Event}
      (address : String) (timeout : Int) (connect : script.connectError = none)
      (keeps : ∀ ev ∈ during, ev.isConnect = false ∧ ev ≠ .close)
      (rest : Serial scripts es) :
      Serial (script :: scripts) (.connect address timeout :: during ++ .close :: es)

theorem Serial.append {scripts scripts' : List Script} {es es' : List Event}
    (h : Serial scripts es) (h' : Serial scripts' es') :
    Serial (scripts ++ scripts') (es ++ es') := by
  induction h with
  | nil => exact h'
  | unused _ ih => exact .unused ih
  | refused address timeout connect _ ih => exact .refused address timeout connect ih
  | used address timeout connect keeps _ ih =>
    rw [List.append_assoc]
    exact .used address timeout connect keeps ih

/-- When a run with a script of its own has ended, the next script is up. -/
theorem onScript_turns {α : Type} (m : Run α) {s : Session} {script : Script}
    {rest : List Script} (h : s.upcoming = script :: rest) :
    ((onScript m).run s).2.script = script ∧ ((onScript m).run s).2.upcoming = rest := by
  rw [onScript, Run.run_bind, Run.run_get]
  simp only [h, Run.thenAlways, goOn, Run.run_bind, Run.run_attempt, Run.run_modify,
    Run.run_ofExcept, and_self]

end Database

namespace Migration

/-! ## Attempts at steps -/

/-- An attempt at a step: the name of the step and the statement that it is for, how it ended,
the script that the database had for it, and what it was asked for. -/
structure Attempt where
  step : String
  statement : String
  result : Except Fault Unit
  script : Script
  events : List Event

/-- The discipline of an attempt on a connection of its own to a target. -/
structure Attempt.Disciplined (a : Attempt) (target : Target) : Prop where
  /-- A connection is asked for once at most. -/
  connects : a.events.countP Event.isConnect ≤ 1
  /-- It is asked for if there is an address to connect to. -/
  reaches : ∀ address timeout, target = .ok (address, timeout) →
    ∃ after, a.events = .connect address timeout :: after
  /-- If there is none, nothing is asked for, and the attempt fails with the reason. -/
  lacks : ∀ e, target = .error e → a.events = [] ∧ a.result = .error e
  /-- A connection is what is asked for first. -/
  begins : a.events = [] ∨ ∃ address timeout after, a.events = .connect address timeout :: after
  /-- Whatever else is asked for is asked for on a connection that was made. -/
  opened : ∀ ev ∈ a.events, ev.isConnect = false → a.script.AnswersConnect a.events none
  /-- A connection that was made is closed once, and nothing is asked for afterwards. -/
  closes : a.script.AnswersConnect a.events none →
    ∃ before, a.events = before ++ [.close] ∧ .close ∉ before
  /-- On a connection that was made the statement is sent, once and without parameters. -/
  sends : a.script.AnswersConnect a.events none →
    Database.sent a.events = [(a.statement, .absent)]
  /-- Committing is asked for exactly if the statement succeeds. -/
  commits : .commit ∈ a.events ↔ a.script.AnswersExecute a.events none
  /-- The attempt succeeds exactly if committing does. -/
  succeeds : a.result = .ok () ↔ a.script.AnswersCommit a.events none
  /-- What was done is rolled back exactly if the database reports an error of the statement
  or of committing it. -/
  rollsBack : .rollback ∈ a.events ↔ ∃ e, Database.isReported e = true ∧
    (a.script.AnswersExecute a.events (some e) ∨ a.script.AnswersCommit a.events (some e))

/-- An attempt that is carried out on a connection to a target. -/
def Attempt.Connects (a : Attempt) (target : Target) : Prop :=
  Database.Connects target (fun script r es => Database.Conducts script a.statement .absent r es)
    a.script a.result a.events

section Attempt

variable {a : Attempt} {target : Target}

theorem Attempt.Connects.disciplined (h : a.Connects target) : a.Disciplined target := by
  obtain ⟨step, statement, result, script, events⟩ := a
  simp only [Attempt.Connects] at h
  have hreaches : ∀ address timeout, target = .ok (address, timeout) →
      ∃ after, events = .connect address timeout :: after := fun _ _ => h.connects
  have hlacks : ∀ e, target = .error e → events = [] ∧ result = .error e := fun _ => h.lacks
  cases h with
  | unaddressed =>
    exact
      { connects := Nat.zero_le 1
        reaches := hreaches
        lacks := hlacks
        begins := .inl rfl
        opened := by simp
        closes := by simp
        sends := by simp
        commits := by simp
        succeeds := by simp
        rollsBack := by simp }
  | unconnected _ hconnect =>
    exact
      { connects := by simp [Event.isConnect]
        reaches := hreaches
        lacks := hlacks
        begins := .inr ⟨_, _, _, rfl⟩
        opened := by simp [Event.isConnect]
        closes := by simp [Script.AnswersConnect, hconnect]
        sends := by simp [Script.AnswersConnect, hconnect]
        commits := by simp [Script.AnswersExecute, Database.sent]
        succeeds := by simp [Script.AnswersCommit]
        rollsBack := by simp [Script.AnswersExecute, Script.AnswersCommit, Database.sent] }
  | connected _ hconnect hconducts =>
    exact
      { connects := (hconducts.countP_connected _ _).le
        reaches := hreaches
        lacks := hlacks
        begins := .inr ⟨_, _, _, rfl⟩
        opened := fun _ _ _ => ⟨by simp [Database.connection, Event.isConnect], hconnect⟩
        closes := fun _ => hconducts.closes_connected _ _
        sends := fun _ => hconducts.sent_connected _ _
        commits := by rw [hconducts.commit_connected, hconducts.answersExecute_connected]
        succeeds := by
          rw [hconducts.answersCommit_connected, ← hconducts.returns]
          refine ⟨fun h => ⟨(), h⟩, fun h => ?_⟩
          obtain ⟨_, h⟩ := h
          exact h
        rollsBack := hconducts.rollback_connected _ _ }

/-- What an attempt asks for is done on one connection. -/
theorem Attempt.Connects.serial (h : a.Connects target) : Database.Serial [a.script] a.events := by
  obtain ⟨step, statement, result, script, events⟩ := a
  simp only [Attempt.Connects] at h
  cases h with
  | unaddressed => exact .unused .nil
  | unconnected _ hconnect => exact .refused _ _ hconnect .nil
  | connected _ hconnect hconducts =>
    rw [Database.connection, List.append_assoc _ _ (Database.settled result)]
    exact .used _ _ hconnect hconducts.keeps_settled .nil

end Attempt

/-! ## Calls on a connector -/

/-- A call that is carried out on a connector. When it has ended, the next script is up, if
there is one, and the connector connects to what it did. -/
structure Serves (name : ConnectorName) (st : String) (s : Session) (r : Except Fault Unit)
    (es : List Event) (t : Session) : Prop where
  connects : Database.Connects (name.target s)
    (fun script r es => Database.Conducts script st .absent r es) s.script r es
  turns : ∀ script rest, s.upcoming = script :: rest → t.script = script ∧ t.upcoming = rest
  keeps : name.target t = name.target s

section Serves

variable {name : ConnectorName} {st : String} {r : Except Fault Unit} {s t : Session}
  {es : List Event}

/-- What a run does on a connector it does in each of its calls. -/
theorem serves_of_calls {m : Run Unit}
    (hm : m.Scripted fun s r es => Database.Connects (name.target s)
      (fun script r es => Database.Conducts script st .absent r es) s.script r es)
    (hsteady : name.Steady m)
    (hturns : ∀ s script rest, s.upcoming = script :: rest →
      (m.run s).2.script = script ∧ (m.run s).2.upcoming = rest)
    (h : m.Calls s r es t) : Serves name st s r es t := by
  obtain ⟨s', t', hs, ht, hrun, hes⟩ := h
  obtain ⟨es', hes', hconnects, hkept⟩ := hm.and hsteady s'
  rw [hrun] at hes' hconnects hkept
  obtain rfl := List.append_cancel_left (hes'.symm.trans hes)
  constructor
  case connects =>
    rw [hs] at hconnects
    rwa [name.target_world] at hconnects
  case keeps => rw [name.target_of_world ht, hkept, name.target_of_world hs]
  case turns =>
    intro script rest hrest
    have hturn := hturns s' script rest ((Run.upcoming_of_world hs).trans hrest)
    rw [hrun] at hturn
    rw [Run.script_of_world ht, Run.upcoming_of_world ht]
    exact hturn

/-- What a statement ends with on a connector, but for what it fetches. -/
theorem withCursor_connects {α : Type} {fetch : Database.Outcome → Run α} {fetches : List Event}
    (name : ConnectorName) (st : String) (hfetches : ∀ ev ∈ fetches, ev = .fetchRow)
    (hfetch : ∀ o, (fetch o).Does fun s r es t =>
      (∃ a, r = .ok a) ∧ es = fetches ∧ t.script = s.script) :
    (name.withCursor (Database.execute st .absent >>= fetch)).Scripted fun s r es =>
      Database.Connects (name.target s)
        (fun script r es => Database.Conducts script st .absent r es) s.script
        (r.map fun _ => ()) es := by
  refine (name.withConnection_connects
    (Q := fun script r es => Database.Completes script st .absent fetches r es)
    (Database.completes st .absent hfetch)).mono ?_
  intro s r es hconnects
  cases hconnects with
  | unaddressed hunaddressed => exact .unaddressed hunaddressed
  | unconnected haddressed hconnect => exact .unconnected haddressed hconnect
  | @connected address timeout _ es haddressed hconnect hdone =>
    have hsettled : Database.connection address timeout es r =
        Database.connection address timeout es (r.map fun _ => ()) := by
      cases r <;> rfl
    rw [hsettled]
    exact .connected haddressed hconnect (hdone.conducts hfetches).forget

/-- A statement leaves what the connector connects to, whatever is fetched. -/
theorem steady_withCursor {α : Type} {fetch : Database.Outcome → Run α} (st : String)
    (hfetch : ∀ o, name.Steady (fetch o)) :
    name.Steady (name.withCursor (Database.execute st .absent >>= fetch)) :=
  (((ConnectorName.steady_execute _ _).bind hfetch).bind fun a =>
    ConnectorName.steady_commit.bind fun _ => ConnectorName.steady_pure a).withCursor.withConnection

theorem serves_execute
    (h : ((MigrationDatabase.connector name).execute st).Calls s r es t) :
    Serves name st s r es t := by
  have hnothing : ∀ o : Database.Outcome, (pure () : Run Unit).Does fun s r es t =>
      (∃ a, r = .ok a) ∧ es = [] ∧ t.script = s.script := fun _ =>
    (Run.Does.pure ()).mono fun _ _ _ _ ⟨hr, hes, ht⟩ => ⟨⟨(), hr⟩, hes, by rw [ht]⟩
  refine serves_of_calls ((withCursor_connects name st (by simp) hnothing).mono ?_)
    (steady_withCursor st fun _ => ConnectorName.steady_pure ())
    (fun _ _ _ => Database.onScript_turns _) h
  intro s r es hconnects
  have hunit : (r.map fun _ => ()) = r := by cases r <;> rfl
  rwa [hunit] at hconnects

theorem serves_test (h : (MigrationDatabase.connector name).test.Calls s r es t) :
    Serves name MigrationDatabase.testStatement s r es t := by
  have hfetch : ∀ o : Database.Outcome, (do
      Run.ask .fetchRow
      return o.row : Run Value).Does fun s r es t =>
        (∃ a, r = .ok a) ∧ es = [.fetchRow] ∧ t.script = s.script := by
    intro o
    refine (Run.Does.bind_eq (Run.Does.ask .fetchRow) (Run.Does.pure o.row)).mono ?_
    rintro s r es t ⟨u, es₁, es₂, rfl, ⟨rfl, rfl⟩, rfl, rfl, rfl⟩
    exact ⟨⟨o.row, rfl⟩, rfl, rfl⟩
  have hforget : ∀ v : Value, (pure () : Run Unit).Answers (.ok ()) := fun _ => Run.Answers.pure ()
  have htest : (MigrationDatabase.connector name).test =
      (name.fetchOne MigrationDatabase.testStatement .absent >>= fun _ => pure ()) := rfl
  refine serves_of_calls ?_ ?_ ?_ h
  · rw [htest]
    refine (Run.Scripted.map (withCursor_connects name MigrationDatabase.testStatement
      (by simp) hfetch) hforget).mono ?_
    rintro s r es ⟨r', hconnects, rfl⟩
    exact hconnects
  · rw [htest]
    exact (steady_withCursor _ fun o => (ConnectorName.steady_ask .fetchRow).bind fun _ =>
      ConnectorName.steady_pure o.row).bind fun _ => ConnectorName.steady_pure ()
  · intro s script rest hrest
    -- nothing is done with the row, so the session is the one that fetching it leaves
    have hsession : ((MigrationDatabase.connector name).test.run s).2 =
        ((name.fetchOne MigrationDatabase.testStatement .absent).run s).2 := by
      rw [htest, Run.run_bind]
      split
      · next hrun => rw [Run.run_pure, hrun]
      · next hrun => rw [hrun]
    rw [hsession]
    exact Database.onScript_turns _ hrest

end Serves

/-! ## Attempts of a migration -/

/-- The name and the statement of a step that is planned, with how it ended. -/
def Attempt.outcome (a : Attempt) : (String × String) × Except Fault Unit :=
  ((a.step, a.statement), a.result)

/-- Attempts that are carried out on a connector one after the other, with what it connects to
in a session and the scripts that the session has, and others when these are used up. -/
structure Attempts (name : ConnectorName) (s : Session) (attempts : List Attempt)
    (es : List Event) : Prop where
  connects : ∀ a ∈ attempts, a.Connects (name.target s)
  events : es = (attempts.map Attempt.events).flatten
  scripts : ∃ more, attempts.map Attempt.script <+: s.script :: s.upcoming ++ more

section Attempts

variable {name : ConnectorName} {s t : Session} {es es' : List Event}
  {attempts : List Attempt}

theorem attempts_nil : Attempts name s [] [] where
  connects := by simp
  events := rfl
  scripts := ⟨[], List.nil_prefix⟩

/-- An attempt comes in front of those that are carried out in the session that it leaves. -/
theorem attempts_cons (step : String) {st : String} {r : Except Fault Unit}
    (h : Serves name st s r es t)
    (rest : Attempts name t attempts es') :
    Attempts name s (⟨step, st, r, s.script, es⟩ :: attempts) (es ++ es') where
  connects := List.forall_mem_cons.mpr ⟨h.connects, h.keeps ▸ rest.connects⟩
  events := by rw [rest.events]; rfl
  scripts := by
    obtain ⟨more, hmore⟩ := rest.scripts
    -- while there are upcoming scripts, the next attempt has the first of them
    cases hupcoming : s.upcoming with
    | nil =>
      refine ⟨t.script :: t.upcoming ++ more, ?_⟩
      exact (List.prefix_cons_inj _).mpr hmore
    | cons script scripts =>
      obtain ⟨hscript, hrest⟩ := h.turns script scripts hupcoming
      rw [hscript, hrest] at hmore
      exact ⟨more, (List.prefix_cons_inj _).mpr hmore⟩

/-- The statements that a connector is given one after the other are attempts. -/
theorem attempts_of_executes {outcomes : List ((String × String) × Except Fault Unit)}
    (h : (MigrationDatabase.connector name).Executes (outcomes.map (·.1.2))
      (outcomes.map (·.2)) s es t) :
    ∃ attempts, attempts.map Attempt.outcome = outcomes ∧ Attempts name s attempts es := by
  -- a statement starts in the session that the one in front of it left
  induction outcomes generalizing s es with
  | nil =>
    cases h with
    | nil => exact ⟨[], rfl, attempts_nil⟩
  | cons o outcomes ih =>
    cases h with
    | cons call rest =>
      obtain ⟨attempts, houtcomes, hattempts⟩ := ih rest
      refine ⟨_ :: attempts, ?_, attempts_cons o.1.1 (serves_execute call) hattempts⟩
      rw [List.map_cons, houtcomes]
      rfl

end Attempts

/-! ## The plan -/

/-- The steps that are attempted on a database, with their statements. None are if the models
are not compiled. -/
def plan (settings : CompilerSettings) (registry : Registry) : List (String × String) :=
  match registry.compiled settings with
  | .error _ => []
  | .ok cs => ("test_connection", MigrationDatabase.testStatement) ::
      cs.map fun c => (tableStepName c.model, c.table)

/-- Outcomes that obey a plan: they come in its order, the first failure is the last of them,
and without a failure they are all that is planned. -/
structure Obeys (plan : List (String × String))
    (outcomes : List ((String × String) × Except Fault Unit)) : Prop where
  order : outcomes.map (·.1) <+: plan
  stops : ∀ o ∈ outcomes.dropLast, o.2 = .ok ()
  whole : (∀ o ∈ outcomes, o.2 = .ok ()) → outcomes.map (·.1) = plan

/-- A step that reports on an outcome. -/
def ReportsOn (o : (String × String) × Except Fault Unit) (x : Step) : Prop := x.Reports o.1.1 o.2

section Obeys

variable {plan : List (String × String)} {p : String × String}
  {outcomes : List ((String × String) × Except Fault Unit)}

theorem obeys_nil : Obeys [] [] := ⟨List.nil_prefix, by simp, fun _ => rfl⟩

/-- A failure is the last that is attempted of a plan. -/
theorem obeys_stop (e : Fault) : Obeys (p :: plan) [(p, .error e)] where
  order := (List.prefix_cons_inj _).mpr List.nil_prefix
  stops := by simp
  whole := fun h => by cases h _ List.mem_cons_self

/-- A success comes in front of the other outcomes. -/
theorem obeys_next (h : Obeys plan outcomes) : Obeys (p :: plan) ((p, .ok ()) :: outcomes) where
  order := (List.prefix_cons_inj _).mpr h.order
  stops := by
    cases outcomes with
    | nil => simp
    | cons o rest =>
      rw [List.dropLast_cons_cons]
      exact List.forall_mem_cons.mpr ⟨rfl, h.stops⟩
  whole := fun hall => by
    rw [List.map_cons, h.whole (List.forall_mem_cons.mp hall).2]

end Obeys

section Creates

variable {db : MigrationDatabase} {cs : List Compiled} {steps : List Step}
  {executed : List String} {s t : Session} {es : List Event}

/-- The outcome of a table. -/
def tableOutcome (r : Except Fault Unit) (c : Compiled) : (String × String) × Except Fault Unit :=
  ((tableStepName c.model, c.table), r)

/-- Tables that are created obey their plan, and each is reported on; the steps behind the
first failure are skipped. -/
theorem creates_obeys (h : db.Creates cs steps executed s es t) :
    ∃ outcomes done skipped,
      Obeys (cs.map fun c => (tableStepName c.model, c.table)) outcomes ∧
      db.Executes (outcomes.map (·.1.2)) (outcomes.map (·.2)) s es t ∧
      steps = done ++ skipped ∧ List.Forall₂ ReportsOn outcomes done ∧
      ∀ x ∈ skipped, x.status = .skipped := by
  -- a plan that is obeyed is still obeyed behind tables that were created
  have hobeys : ∀ {plan outcomes} (pre : List Compiled), Obeys plan outcomes →
      Obeys ((pre.map fun c => (tableStepName c.model, c.table)) ++ plan)
        (pre.map (tableOutcome (.ok ())) ++ outcomes) := by
    intro plan outcomes pre h
    induction pre with
    | nil => exact h
    | cons c pre ih => exact obeys_next ih
  cases h with
  | all statements run reports =>
    have hobeys := hobeys cs obeys_nil
    rw [List.append_nil, List.append_nil] at hobeys
    refine ⟨_, steps, [], hobeys, ?_, (List.append_nil _).symm, ?_, by simp⟩
    · rw [List.map_map, List.map_map]
      rwa [statements] at run
    · exact List.forall₂_map_left_iff.mpr reports
  | @stopped pre post c e xs x split statements run steps_eq reports failed =>
    refine ⟨pre.map (tableOutcome (.ok ())) ++ [tableOutcome (.error e) c], xs ++ [x],
      post.map skippedStep, ?_, ?_, ?_, ?_, ?_⟩
    · rw [split, List.map_append, List.map_cons]
      exact hobeys pre (obeys_stop e)
    · rw [List.map_append, List.map_map, List.map_append, List.map_map]
      rwa [statements] at run
    · rw [steps_eq, List.append_assoc, List.singleton_append]
    · exact List.rel_append (List.forall₂_map_left_iff.mpr reports) (.cons failed .nil)
    · simp [skippedStep]

end Creates

/-! ## The whole migration -/

/-- A migration does what it performs, for it is told of without asking for anything. -/
theorem run_tells {settings : CompilerSettings} {registry : Registry} {db : MigrationDatabase}
    {isDryRun : Bool} {P : Session → Except Fault Migration → List Event → Session → Prop}
    (h : ∀ moment, (perform settings registry db isDryRun
      ⟨moment, isDryRun, false, registry.names, [], [], []⟩).Does P) :
    (run settings registry db isDryRun).Does fun s r es t =>
      ∃ s' t', s'.world = s.world ∧ t.world = t'.world ∧ P s' r es t' := by
  have htold : ∀ m : Migration, (do tellEnd m; return m : Run Migration).Answers (.ok m) :=
    fun m => (silent_tellEnd m).after (Run.Answers.pure m)
  refine (Run.Does.get_bind fun s => Run.Does.after (silent_tellStart registry isDryRun)
    (Run.Does.bind (h s.now) htold)).mono ?_
  rintro s r es t ⟨s', hs, ⟨e, rfl, hP⟩ | ⟨m, u, es₁, es₂, rfl, hP, rfl, rfl, ht⟩⟩
  · exact ⟨s', t, hs, rfl, hP⟩
  · rw [List.append_nil]
    exact ⟨s', u, hs, ht, hP⟩

theorem run_performs {settings : CompilerSettings} {registry : Registry} {db : MigrationDatabase}
    {P : Session → Except Fault Migration → List Event → Session → Prop}
    (h : ∀ moment, (perform settings registry db false
      ⟨moment, false, false, registry.names, [], [], []⟩).Does P) :
    (run settings registry db false).Does fun s r es _ =>
      ∃ s' t', s'.world = s.world ∧ P s' r es t' :=
  (run_tells h).mono fun _ _ _ _ ⟨s', t', hs, _, hP⟩ => ⟨s', t', hs, hP⟩

/-- While models are not compiled, nothing is asked for. -/
theorem perform_uncompiled {settings : CompilerSettings} {registry : Registry} {e : Fault}
    (h : registry.compiled settings = .error e) (db : MigrationDatabase) (blank : Migration) :
    (perform settings registry db false blank).Does fun _ r es _ =>
      es = [] ∧ ∀ m, r = .ok m → ∃ x, m.steps = [x] := by
  -- only a refused declaration makes a step that failed; another fault is raised
  by_cases he : ∃ d, e = .declaration d
  · obtain ⟨d, rfl⟩ := he
    obtain ⟨x, hx, hreport⟩ := compileStep_refused h
    refine Run.Does.mono (perform_refused hx hreport.status_failed db false blank) ?_
    rintro s r es t ⟨rfl, rfl, -⟩
    refine ⟨rfl, fun m hm => ⟨x, ?_⟩⟩
    rw [← Except.ok.inj hm]
  · have hraise := compileStep_raises h fun d hd => he ⟨d, hd⟩
    refine Run.Does.mono (perform_raises hraise db false blank) ?_
    rintro s r es t ⟨rfl, rfl, -⟩
    exact ⟨rfl, fun m hm => by cases hm⟩

/-- The discipline of a migration on a connector that connects to a target. -/
structure Disciplined (settings : CompilerSettings) (registry : Registry) (target : Target)
    (s : Session) (attempts : List Attempt) (r : Except Fault Migration) (es : List Event) :
    Prop where
  /-- What is asked for is what the attempts ask for, in their order. -/
  events : es = (attempts.map Attempt.events).flatten
  /-- Each connection is closed before the next one is asked for, and at the end. -/
  serial : Database.Serial (attempts.map Attempt.script) es
  /-- Attempt by attempt the database goes on with the scripts that it has, and with others
  when these are used up. -/
  scripts : ∃ more, attempts.map Attempt.script <+: s.script :: s.upcoming ++ more
  each : ∀ a ∈ attempts, a.Disciplined target
  /-- The connection is tested, then tables are created up to the first attempt that fails. -/
  obeys : Obeys (plan settings registry) (attempts.map Attempt.outcome)
  /-- A migration whose models are compiled ends with a result. -/
  returns : ∀ cs, registry.compiled settings = .ok cs → ∃ m, r = .ok m
  /-- Behind the step that compiles, the steps of a result report on the attempts: each is a
  success exactly if its statement is committed. The steps that are left are skipped. -/
  reports : ∀ m, r = .ok m → ∃ x done skipped, m.steps = x :: (done ++ skipped) ∧
    List.Forall₂ (fun a y => y.Reports a.step a.result ∧
      (y.status = .success ↔ a.script.AnswersCommit a.events none)) attempts done ∧
    ∀ y ∈ skipped, y.status = .skipped

section Disciplined

variable {settings : CompilerSettings} {registry : Registry} {name : ConnectorName}
  {target : Target} {s : Session} {attempts : List Attempt} {es : List Event}

/-- Attempts on a connector use one connection after the other. -/
theorem serial_of_connects (h : ∀ a ∈ attempts, a.Connects target) :
    Database.Serial (attempts.map Attempt.script) (attempts.map Attempt.events).flatten := by
  induction attempts with
  | nil => exact .nil
  | cons a attempts ih =>
    obtain ⟨ha, hrest⟩ := List.forall_mem_cons.mp h
    exact ha.serial.append (ih hrest)

/-- Attempts that obey the plan and are reported on keep the discipline. -/
theorem disciplined_of_attempts {outcomes : List ((String × String) × Except Fault Unit)}
    {m : Migration} {x : Step} {done skipped : List Step} (hattempts : Attempts name s attempts es)
    (houtcomes : attempts.map Attempt.outcome = outcomes)
    (hobeys : Obeys (plan settings registry) outcomes)
    (hsteps : m.steps = x :: (done ++ skipped)) (hdone : List.Forall₂ ReportsOn outcomes done)
    (hskipped : ∀ y ∈ skipped, y.status = .skipped) :
    Disciplined settings registry (name.target s) s attempts (.ok m) es := by
  have hdisciplined : ∀ a ∈ attempts, a.Disciplined (name.target s) :=
    fun a ha => (hattempts.connects a ha).disciplined
  constructor
  case events => exact hattempts.events
  case serial =>
    rw [hattempts.events]
    exact serial_of_connects hattempts.connects
  case scripts => exact hattempts.scripts
  case each => exact hdisciplined
  case obeys => rwa [houtcomes]
  case returns => exact fun _ _ => ⟨m, rfl⟩
  case reports =>
    intro m' hm'
    obtain rfl := Except.ok.inj hm'
    refine ⟨x, done, skipped, hsteps, ?_, hskipped⟩
    rw [← houtcomes, List.forall₂_map_left_iff] at hdone
    refine (List.forall₂_and_left _ _ |>.mpr ⟨hdisciplined, hdone⟩).imp ?_
    rintro a y ⟨ha, hreport⟩
    refine ⟨hreport, ?_⟩
    rw [← ha.succeeds]
    have hreport : y.Reports a.step a.result := hreport
    -- the status of a step says how what it reports on has ended
    cases hresult : a.result with
    | ok u =>
      rw [hresult] at hreport
      simp [hreport.status_success]
    | error e =>
      rw [hresult] at hreport
      simp [hreport.status_failed]

/-- While models are not compiled, nothing is attempted. -/
theorem disciplined_uncompiled {e : Fault} {r : Except Fault Migration}
    (h : registry.compiled settings = .error e)
    (hsteps : ∀ m, r = .ok m → ∃ x, m.steps = [x]) :
    Disciplined settings registry target s [] r [] where
  events := rfl
  serial := .nil
  scripts := ⟨[], List.nil_prefix⟩
  each := by simp
  obeys := by
    rw [plan, h]
    exact obeys_nil
  returns := fun cs hcs => by
    rw [h] at hcs
    cases hcs
  reports := by
    intro m hm
    obtain ⟨x, hx⟩ := hsteps m hm
    exact ⟨x, [], [], hx, .nil, by simp⟩

/-- Of the session only the scripts of its database matter. -/
theorem Disciplined.of_scripts {r : Except Fault Migration} {s' : Session}
    (h : Disciplined settings registry target s' attempts r es) (hscript : s'.script = s.script)
    (hupcoming : s'.upcoming = s.upcoming) :
    Disciplined settings registry target s attempts r es where
  events := h.events
  serial := h.serial
  scripts := by
    rw [← hscript, ← hupcoming]
    exact h.scripts
  each := h.each
  obeys := h.obeys
  returns := h.returns
  reports := h.reports

theorem Disciplined.congr {r : Except Fault Migration} {s' : Session}
    (h : Disciplined settings registry target s' attempts r es) (hs : s'.world = s.world) :
    Disciplined settings registry target s attempts r es :=
  h.of_scripts (Run.script_of_world hs) (Run.upcoming_of_world hs)

/-- What is compiled has names that spell text. -/
theorem isNamed_of_compiled {cs : List Compiled} (h : registry.compiled settings = .ok cs) :
    ∀ d ∈ registry, d.IsNamed := by
  intro d hd
  obtain ⟨c, -, hc⟩ := forall₂_mem_left (Registry.compiled_eq_ok.mp h) hd
  obtain ⟨fs, -, -, hname, -⟩ := Compilation.ofFields_eq_ok hc
  exact ⟨c.model, hname⟩

/-- What a migration follows is a discipline, if its models are compiled. -/
theorem follows_disciplined {cs : List Compiled} {m : Migration} {executed : List String}
    {t : Session} (h : registry.compiled settings = .ok cs)
    (hfollows : m.Follows settings registry (.connector name) executed s es t) :
    ∃ attempts, Disciplined settings registry (name.target s) s attempts (.ok m) es := by
  have hplan : plan settings registry = ("test_connection", MigrationDatabase.testStatement) ::
      cs.map fun c => (tableStepName c.model, c.table) := by
    rw [plan, h]
  cases hfollows with
  -- the models are compiled, so none of them was refused
  | @uncompiled pre post d e x _ _ split _ refused =>
    exact absurd refused (Registry.not_refused_of_compiled h (by simp [split]))
  | @unconnected _ e x y _ _ _ _ test steps _ report =>
    have hattempts := attempts_cons "test_connection" (serves_test test) attempts_nil
    rw [List.append_nil] at hattempts
    have hobeys : Obeys (plan settings registry)
        [(("test_connection", MigrationDatabase.testStatement), .error e)] := by
      rw [hplan]
      exact obeys_stop e
    have hsteps : m.steps = x :: ([y] ++ []) := steps
    exact ⟨_, disciplined_of_attempts hattempts rfl hobeys hsteps (.cons report .nil) (by simp)⟩
  | @connected cs' x y tables _ _ _ _ _ _ compiled test creates steps _ report =>
    obtain rfl := Registry.compiled_unique h compiled
    obtain ⟨outcomes, done, skipped, hobeys, hexecutes, htables, hdone, hskipped⟩ :=
      creates_obeys creates
    obtain ⟨attempts, houtcomes, hattempts⟩ := attempts_of_executes hexecutes
    have hobeys : Obeys (plan settings registry)
        ((("test_connection", MigrationDatabase.testStatement), .ok ()) :: outcomes) := by
      rw [hplan]
      exact obeys_next hobeys
    have hsteps : m.steps = x :: ((y :: done) ++ skipped) := by
      rw [steps, htables]
      rfl
    have hattempts := attempts_cons "test_connection" (serves_test test) hattempts
    refine ⟨_, disciplined_of_attempts hattempts ?_ hobeys hsteps (.cons report hdone) hskipped⟩
    rw [List.map_cons, houtcomes]
    rfl

/-- **Connections of a migration.** Whatever the database answers on each of its connections,
a migration on a connector keeps the discipline, with what the connector connects to in the
session that the migration starts in. -/
theorem connections_disciplined (settings : CompilerSettings) (registry : Registry)
    (name : ConnectorName) :
    (run settings registry (.connector name) false).Does fun s r es _ =>
      ∃ attempts, Disciplined settings registry (name.target s) s attempts r es := by
  have hperform : ∀ moment, (perform settings registry (.connector name) false
      ⟨moment, false, false, registry.names, [], [], []⟩).Does fun s r es _ =>
        ∃ attempts, Disciplined settings registry (name.target s) s attempts r es := by
    intro moment
    cases hcompiled : registry.compiled settings with
    | error e =>
      refine (perform_uncompiled hcompiled (.connector name) _).mono ?_
      rintro s r es t ⟨rfl, hsteps⟩
      exact ⟨[], disciplined_uncompiled hcompiled hsteps⟩
    | ok cs =>
      refine (perform_follows settings registry (.connector name)
        (isNamed_of_compiled hcompiled) moment).mono ?_
      rintro s r es t ⟨m, rfl, executed, -, hfollows⟩
      exact follows_disciplined hcompiled hfollows
  refine (run_performs hperform).mono ?_
  rintro s r es t ⟨s', -, hs, attempts, hdisciplined⟩
  rw [name.target_of_world hs] at hdisciplined
  exact ⟨attempts, hdisciplined.congr hs⟩

end Disciplined

end Migration

end Relvar
