/-
What a request does before anything is done for it. It sets up the log, loads a registry, names
a connector and reads the settings: it does no more than log, leaves to what follows all that
the database has in store, and goes on with what it has loaded.
-/
import Relvar.CommandLine.Deployment
import Relvar.Proofs.Connections
import Relvar.Proofs.Happenings

set_option autoImplicit false

namespace Relvar

open Database (Event)

/-! ## Records -/

namespace Happening

/-- A record, and nothing else. -/
def IsLogged (x : Happening) : Prop := ∃ r, x = .logged r

theorem isLogged_logged (r : Log.Record) : IsLogged (.logged r) := ⟨r, rfl⟩

theorem IsLogged.unasked {x : Happening} (h : x.IsLogged) (e : Event) : x ≠ .asked e := by
  obtain ⟨r, rfl⟩ := h
  exact nofun

theorem IsLogged.unprinted {x : Happening} (h : x.IsLogged) (text : String) :
    x ≠ .printed text := by
  obtain ⟨r, rfl⟩ := h
  exact nofun

end Happening

open Happening (IsLogged isLogged_logged)

namespace Run

/-- Runs that answer, one after the other, answer. -/
theorem answers_bind {α β : Type} {m : Run α} {f : α → Run β} (h : ∃ r, m.Answers r)
    (hf : ∀ a, ∃ q, (f a).Answers q) : ∃ q, (m >>= f).Answers q := by
  obtain ⟨r, hr⟩ := h
  choose q hq using hf
  exact ⟨r.bind q, hr.bind hq⟩

/-- A run that answers and does no more than log. -/
theorem Answers.tells {α : Type} {m : Run α} {r : Except Fault α} (h : m.Answers r)
    (hadds : m.Adds IsLogged) (s : Session) : ∃ hs t, m.run s = (r, t) ∧
      t.happenings = s.happenings ++ hs ∧ (∀ x ∈ hs, x.IsLogged) ∧ t.world = s.world := by
  obtain ⟨hs, hrun, hall⟩ := hadds s
  exact ⟨hs, _, Prod.ext (h.outcome s) rfl, hrun, hall, h.world s⟩

end Run

/-! ## Loading -/

open Run (Answers)

/-- Registering sources one after another ends in the same way everywhere. -/
theorem Registry.registerAll_answers (r : Registry) (sources : List Value) :
    ∃ q, (r.registerAll sources).Answers q := by
  induction sources generalizing r with
  | nil => exact ⟨_, Answers.pure r⟩
  | cons source rest ih =>
    refine Run.answers_bind ?_ ih
    by_cases hnull : source = .null
    · rw [hnull]
      exact ⟨_, Answers.pure r⟩
    · exact ⟨_, r.register_answers .null hnull⟩

theorem Registry.ofValue_answers (v : Value) : ∃ q, (Registry.ofValue v).Answers q := by
  unfold Registry.ofValue
  split
  · split
    · exact Registry.registerAll_answers _ _
    · exact ⟨_, Answers.throw _⟩
  · exact ⟨_, Answers.pure _⟩

theorem Catalogue.load_answers (c : Catalogue) (target : String) :
    ∃ q, (c.load target).Answers q := by
  refine Run.answers_bind ⟨_, Answers.ofExcept (c.item target)⟩ fun v => ?_
  split
  · exact ⟨_, Answers.pure _⟩
  · exact Registry.ofValue_answers _
  · exact Registry.ofValue_answers _
  · exact ⟨_, Answers.throw _⟩

/-- A registry whose models have texts for names that are not empty, as all have that are declared
from values. -/
def Registry.IsWorded (registry : Registry) : Prop :=
  ∀ d ∈ registry, d.name.asText?.isSome = true ∧ d.name.isTruthy = true

theorem Registry.IsWorded.isNamed {registry : Registry} (h : registry.IsWorded) :
    ∀ d ∈ registry, d.IsNamed :=
  fun d hd => Value.checkName_of_asText? (h d hd).1 (h d hd).2

theorem Registry.IsWorded.isText {registry : Registry} (h : registry.IsWorded) :
    ∀ d ∈ registry, d.name.asText?.isSome = true :=
  fun d hd => (h d hd).1

namespace CommandLine

variable {c : Catalogue} {r : Request} {registry : Registry} {known : Settings} {s t u : Session}

/-- What a request is to connect to: the address that it gives, with the seconds that the
settings say, or what the shared connector connects to. -/
def Request.target (r : Request) (known : Settings) (s : Session) : Database.Target :=
  match r.connection.filter (· != "") with
  | some address => .ok (address, known.database.timeout)
  | none => ConnectorName.shared.target s

/-! ## On the way -/

/-- A session that is come to before anything is done: what the database will do is as it was,
the settings are known, the shared connector connects to what it did, and only records were
added. -/
structure Readies (known : Settings) (s t : Session) : Prop where
  script : t.script = s.script
  upcoming : t.upcoming = s.upcoming
  settings : (Run.settings.run t).1 = .ok known
  shared : ConnectorName.shared.target t = ConnectorName.shared.target s
  logs : ∃ hs, t.happenings = s.happenings ++ hs ∧ ∀ x ∈ hs, x.IsLogged

theorem Readies.trans (h : Readies known s t) (h' : Readies known t u) : Readies known s u := by
  obtain ⟨hs, hhs, hlogged⟩ := h.logs
  obtain ⟨ks, hks, hlogged'⟩ := h'.logs
  refine ⟨h'.script.trans h.script, h'.upcoming.trans h.upcoming, h'.settings,
    h'.shared.trans h.shared, hs ++ ks, ?_, ?_⟩
  · rw [hks, hhs, List.append_assoc]
  · exact fun x hx => (List.mem_append.mp hx).elim (hlogged x) (hlogged' x)

/-- A change of the session that leaves the scripts, the settings, the shared connector and what
happened. -/
theorem readies_of_eq (hknown : (Run.settings.run s).1 = .ok known)
    (hscript : t.script = s.script) (hupcoming : t.upcoming = s.upcoming)
    (hsettings : t.known = s.known) (henvironment : t.environment = s.environment)
    (hshared : t.shared = s.shared) (hhappenings : t.happenings = s.happenings) :
    Readies known s t where
  script := hscript
  upcoming := hupcoming
  settings := by rw [Run.outcome_settings, hsettings, ← Run.outcome_settings, hknown]
  shared := ConnectorName.shared.target_congr hshared henvironment hsettings
  logs := ⟨[], by rw [hhappenings, List.append_nil], by simp⟩

/-- The level that a request asks for is one. -/
theorem setUpLog_readies (hknown : (Run.settings.run s).1 = .ok known) (r : Request) :
    ∃ setup t, (Run.setUpLog (.str (levelWord r)) r.hasJsonLogs).run s = (.ok setup, t) ∧
      Readies known s t := by
  have hsetup : ∀ word, ∃ setup, Log.Setup.of (.str (levelWord r)) r.hasJsonLogs word =
      .ok setup := by
    intro word
    rw [levelWord]
    split
    · exact ⟨_, rfl⟩
    · exact ⟨_, rfl⟩
  obtain ⟨setup, hsetup⟩ := hsetup (s.environment.get? Run.logFormVariable)
  refine ⟨setup, { s with console := some setup }, ?_,
    readies_of_eq hknown rfl rfl rfl rfl rfl rfl⟩
  rw [Run.setUpLog, Run.run_bind, Run.run_get]
  dsimp only
  rw [hsetup]
  rfl

theorem load_readies {target : String} (hknown : (Run.settings.run s).1 = .ok known)
    {q : Except Fault Registry} (hload : (c.load target).Answers q) :
    ∃ t, (c.load target).run s = (q, t) ∧ Readies known s t := by
  obtain ⟨hs, t, hrun, hhs, hlogged, hworld⟩ := hload.tells (c.adds_load isLogged_logged target) s
  have hsettings : t.known = s.known := Run.part_of_world Session.known (fun _ => rfl) hworld
  refine ⟨t, hrun, Run.script_of_world hworld, Run.upcoming_of_world hworld, ?_,
    ConnectorName.shared.target_of_world hworld, hs, hhs, hlogged⟩
  rw [Run.outcome_settings, hsettings, ← Run.outcome_settings, hknown]

/-- Settings that are read are known from then on. -/
theorem settings_readies (hknown : (Run.settings.run s).1 = .ok known) :
    Run.settings.run s = (.ok known, { s with settings := some known }) ∧
      Readies known s { s with settings := some known } := by
  have hsettings : s.known = .ok known := by rw [← Run.outcome_settings, hknown]
  refine ⟨?_, readies_of_eq hknown rfl rfl hsettings.symm rfl rfl rfl⟩
  rw [Run.run_settings, hsettings]

theorem Readies.target (h : Readies known s t) (r : Request) :
    r.target known t = r.target known s := by
  rw [Request.target, Request.target, h.shared]

/-- A request names a connector, whether it gives an address or not, and connects to what it is
to connect to. -/
theorem databaseOf_readies (hknown : (Run.settings.run s).1 = .ok known) (r : Request) :
    ∃ name t, (databaseOf r).run s = (.ok (.connector name), t) ∧ Readies known s t ∧
      name.target t = r.target known s := by
  cases hgiven : r.connection.filter (· != "") with
  | none =>
    rw [databaseOf, Request.target, hgiven]
    exact ⟨.shared, s, rfl, readies_of_eq hknown rfl rfl rfl rfl rfl rfl, rfl⟩
  | some address =>
    obtain ⟨hrun, hs⟩ := settings_readies hknown
    let own : Connector := ⟨known.database, some address⟩
    let t := ConnectorName.own.put own { s with settings := some known }
    -- the connector that is made is not the shared one
    have ht : Readies known { s with settings := some known } t :=
      readies_of_eq hs.settings rfl rfl rfl rfl rfl rfl
    have htarget : ConnectorName.own.target t = .ok (address, known.database.timeout) :=
      ConnectorName.own.target_of_find? ConnectorName.own.find?_put
    rw [databaseOf, Request.target, hgiven]
    refine ⟨.own, t, ?_, hs.trans ht, htarget⟩
    simp only [ConnectorName.make, Run.run_bind, hrun]
    rfl

/-! ## What is done -/

/-- What is done for a request, once the settings, the registry and the database are there. -/
def carryOut (settings : CompilerSettings) (registry : Registry) (db : MigrationDatabase)
    (r : Request) : Run Ending :=
  match r.emit.filter (· != "") with
  | some path => emit settings registry path
  | none =>
    if r.hasJsonLogs then migrateForPrograms settings registry db r
    else migrateForPeople settings registry db r

theorem deploy_eq (r : Request) (registry : Registry) :
    deploy r registry = (do
      let db ← databaseOf r
      let settings ← Run.settings
      carryOut settings.compiler registry db r) := rfl

/-- A request whose registry loads, where the settings are valid, is carried out. -/
theorem perform_carriesOut (hknown : (Run.settings.run s).1 = .ok known)
    (hload : ((c.load (r.models.getD "")).run s).1 = .ok registry) :
    ∃ name t, Readies known s t ∧ name.target t = r.target known s ∧
      (perform c r).run s = (carryOut known.compiler registry (.connector name) r).run t := by
  obtain ⟨q, hanswers⟩ := c.load_answers (r.models.getD "")
  obtain rfl : q = .ok registry := (hanswers.outcome s).symm.trans hload
  -- each stage starts in the session that the one in front of it left
  obtain ⟨setup, s₁, hsetUp, hs₁⟩ := setUpLog_readies hknown r
  obtain ⟨s₂, hloads, hs₂⟩ := load_readies hs₁.settings hanswers
  obtain ⟨name, s₃, hdatabase, hs₃, htarget⟩ := databaseOf_readies hs₂.settings r
  obtain ⟨hsettings, ht⟩ := settings_readies hs₃.settings
  refine ⟨name, _, ((hs₁.trans hs₂).trans hs₃).trans ht, ?_, ?_⟩
  · rw [name.target_settings hs₃.settings, htarget, (hs₁.trans hs₂).target r]
  · calc (perform c r).run s
        = (deploy r registry).run s₂ := by
          simp only [perform, Run.run_bind, hsetUp, Run.run_attempt, hloads]
      _ = (carryOut known.compiler registry (.connector name) r).run _ := by
          simp only [deploy_eq, Run.run_bind, hdatabase, hsettings]

end CommandLine

end Relvar
