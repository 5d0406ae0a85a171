/-
What a connector connects to. A session says it before anything is connected: the address is
the one that the connector has, the one that its settings give, or one put together from the
environment. Looking it up changes the session, for a connector that is made and an address
that is found are kept; but what there is to connect to stays the same, and so it does in any
run that only logs, looks up and uses connections.
-/
import Relvar.Proofs.Trace

set_option autoImplicit false

namespace Relvar

/-! ## Targets -/

/-- What is connected to: an address and the seconds that connecting may take, or the fault
because of which there is no address. -/
abbrev Database.Target := Except Fault (String × Int)

/-- The settings of a session: those that are read already, or those of the environment. -/
def Session.known (s : Session) : Except Fault Settings :=
  match s.settings with
  | some known => .ok known
  | none => Settings.ofEnvironment s.environment

/-- The address that settings give, or that is put together from an environment. -/
def DatabaseSettings.addressIn (d : DatabaseSettings) (env : Environment) : Except Fault String :=
  match d.address.filter (· != "") with
  | some known => .ok known
  | none => (Address.ofEnvironment env d.sslMode).map Address.text

/-- The address that a connector has, or finds. -/
def Connector.addressIn (c : Connector) (env : Environment) : Except Fault String :=
  match c.address with
  | some known => .ok known
  | none => c.settings.addressIn env

/-- What a connector connects to in an environment. -/
def Connector.target (c : Connector) (env : Environment) : Database.Target :=
  (c.addressIn env).map fun address => (address, c.settings.timeout)

namespace ConnectorName

/-- The connector of a name in a session: the one that is there, or one with the settings of
the session. -/
def connector (name : ConnectorName) (s : Session) : Except Fault Connector :=
  match name.find? s with
  | some c => .ok c
  | none => s.known.map fun known => ⟨known.database, none⟩

/-- What the connector of a name connects to in a session. -/
def target (name : ConnectorName) (s : Session) : Database.Target :=
  (name.connector s).bind fun c => c.target s.environment

section

variable (name : ConnectorName) {s t : Session} {c : Connector}

@[simp] theorem find?_put : name.find? (name.put c s) = some c := by cases name <;> rfl

theorem find?_of_world (h : t.world = s.world) : name.find? t = name.find? s := by
  refine Run.part_of_world name.find? (fun _ => ?_) h
  cases name <;> rfl

@[simp] theorem environment_put : (name.put c s).environment = s.environment := by
  cases name <;> rfl

@[simp] theorem script_put : (name.put c s).script = s.script := by cases name <;> rfl

@[simp] theorem happenings_put : (name.put c s).happenings = s.happenings := by
  cases name <;> rfl

theorem target_of_find? (h : name.find? s = some c) : name.target s = c.target s.environment := by
  rw [target, connector, h]
  rfl

/-- Without a connector there is nothing to connect to. -/
theorem target_of_connector_error {e : Fault} (h : name.connector s = .error e) :
    name.target s = .error e := by
  rw [target, h]
  rfl

/-- The address goes with the seconds that the settings of the connector say. -/
theorem target_of_address {address : String} (hfind : name.find? s = some c)
    (h : (name.target s).map (·.1) = .ok address) :
    name.target s = .ok (address, c.settings.timeout) := by
  rw [name.target_of_find? hfind, Connector.target] at h ⊢
  cases haddress : c.addressIn s.environment with
  | error e =>
    rw [haddress] at h
    cases h
  | ok known =>
    rw [haddress] at h
    rw [← Except.ok.inj h]
    rfl

/-- The log has no part in what is connected to. -/
@[simp] theorem target_world : name.target s.world = name.target s := by cases name <;> rfl

theorem target_of_world (h : t.world = s.world) : name.target t = name.target s :=
  Run.part_of_world name.target (fun _ => name.target_world) h

theorem target_congr (hfind : name.find? t = name.find? s)
    (henvironment : t.environment = s.environment) (hknown : t.known = s.known) :
    name.target t = name.target s := by
  rw [target, target, connector, connector, hfind, henvironment, hknown]

end

end ConnectorName

/-! ## Looking up -/

namespace Run

/-- Settings that are read are kept. -/
theorem run_settings (s : Session) : Run.settings.run s = match s.known with
    | .ok known => (.ok known, { s with settings := some known })
    | .error e => (.error e, s) := by
  rw [Run.settings, run_bind, run_get, Session.known]
  dsimp only
  cases hs : s.settings with
  -- settings that were read once are not read anew
  | some known =>
    have hsame : { s with settings := some known } = s := by rw [← hs]
    dsimp only
    rw [hsame]
    rfl
  | none =>
    dsimp only
    rw [run_bind, run_ofExcept]
    cases Settings.ofEnvironment s.environment <;> rfl

theorem outcome_settings (s : Session) : (Run.settings.run s).1 = s.known := by
  rw [run_settings]
  cases s.known <;> rfl

end Run

namespace ConnectorName

variable (name : ConnectorName)

/-- Settings that are read are the ones that a connector would be made with. -/
theorem target_settings {s : Session} {known : Settings}
    (h : (Run.settings.run s).1 = .ok known) :
    name.target { s with settings := some known } = name.target s := by
  have hknown : s.known = .ok known := by rw [← Run.outcome_settings, h]
  refine name.target_congr ?_ rfl hknown.symm
  cases name <;> rfl

/-- What looking something up for a connector leaves as it is. -/
structure Keeps (s t : Session) : Prop where
  script : t.script = s.script
  environment : t.environment = s.environment
  target : name.target t = name.target s

variable {name}

theorem Keeps.refl (s : Session) : name.Keeps s s := ⟨rfl, rfl, rfl⟩

theorem Keeps.trans {s t u : Session} (h : name.Keeps s t) (h' : name.Keeps t u) :
    name.Keeps s u :=
  ⟨h'.script.trans h.script, h'.environment.trans h.environment, h'.target.trans h.target⟩

theorem Keeps.of_world {s t : Session} (h : t.world = s.world) : name.Keeps s t :=
  ⟨Run.script_of_world h, Run.environment_of_world h, name.target_of_world h⟩

variable (name)

section

variable {s : Session}

theorem get_found {c : Connector} (h : name.find? s = some c) : name.get.run s = (.ok c, s) := by
  simp only [ConnectorName.get, Run.run_bind, Run.run_get, h, Run.run_pure]

theorem get_unknown {e : Fault} (hnew : name.find? s = none) (h : s.known = .error e) :
    name.get.run s = (.error e, s) := by
  simp only [ConnectorName.get, make, Run.run_bind, Run.run_get, hnew, Run.run_settings, h]

/-- A connector that is made is kept, and so are the settings that it is made with. -/
theorem get_made {known : Settings} (hnew : name.find? s = none) (h : s.known = .ok known) :
    name.get.run s = (.ok ⟨known.database, none⟩,
      name.put ⟨known.database, none⟩ { s with settings := some known }) := by
  simp only [ConnectorName.get, make, Run.run_bind, Run.run_get, hnew, Run.run_settings, h,
    Run.run_pure, Run.run_modify, name.find?_put]
  rfl

end

/-- The connector that is found is there afterwards. -/
theorem get_does : name.get.Does fun s r es t => r = name.connector s ∧ es = [] ∧
    name.Keeps s t ∧ ∀ c, r = .ok c → name.find? t = some c := by
  intro s
  cases hfind : name.find? s with
  | some c =>
    have hconnector : name.connector s = .ok c := by rw [connector, hfind]
    rw [name.get_found hfind]
    refine ⟨[], (List.append_nil _).symm, hconnector.symm, rfl, .refl s, fun c' hc' => ?_⟩
    rw [hfind, Except.ok.inj hc']
  | none =>
    have hconnector : name.connector s = s.known.map fun known => ⟨known.database, none⟩ := by
      rw [connector, hfind]
    cases hknown : s.known with
    | error e =>
      rw [hknown] at hconnector
      rw [name.get_unknown hfind hknown]
      exact ⟨[], (List.append_nil _).symm, hconnector.symm, rfl, .refl s, nofun⟩
    | ok known =>
      rw [hknown] at hconnector
      have hhappenings := name.happenings_put (c := ⟨known.database, none⟩)
        (s := { s with settings := some known })
      -- the connector that is made connects to what one with these settings would
      have hkeeps : name.Keeps s (name.put ⟨known.database, none⟩
          { s with settings := some known }) := by
        refine ⟨name.script_put, name.environment_put, ?_⟩
        rw [name.target_of_find? name.find?_put, target, hconnector, name.environment_put]
        rfl
      rw [name.get_made hfind hknown]
      refine ⟨[], by rw [hhappenings, List.append_nil], hconnector.symm, rfl, hkeeps, ?_⟩
      intro c hc
      rw [name.find?_put, Except.ok.inj hc]

theorem findAddress_does (d : DatabaseSettings) : (findAddress d).Does fun s r es t =>
    r = d.addressIn s.environment ∧ es = [] ∧ t.world = s.world := by
  unfold findAddress
  cases hgiven : d.address.filter (· != "") with
  | some known =>
    refine (Run.Does.pure known).mono ?_
    rintro s r es t ⟨rfl, rfl, rfl⟩
    exact ⟨by rw [DatabaseSettings.addressIn, hgiven], rfl, rfl⟩
  | none =>
    have hfound : ∀ s : Session, (do
        let a ← Run.ofExcept (Address.ofEnvironment s.environment d.sslMode)
        writer.debug s!"Password connection string built for {a.database}"
        return a.text : Run String).Answers
          ((Address.ofEnvironment s.environment d.sslMode).bind fun a => .ok a.text) := fun s =>
      (Run.Answers.ofExcept _).bind fun a => (Run.Silent.debug _ _).after (Run.Answers.pure a.text)
    refine (Run.Does.get_bind hfound).mono ?_
    rintro s r es t ⟨rfl, rfl, ht⟩
    refine ⟨?_, rfl, ht⟩
    rw [DatabaseSettings.addressIn, hgiven]
    cases Address.ofEnvironment s.environment d.sslMode <;> rfl

/-- A connector that keeps the address it finds connects to the same as before. -/
theorem Keeps.put {s u : Session} {c : Connector} {found : String}
    (hfind : name.find? s = some c) (hu : u.world = s.world)
    (hfound : c.addressIn s.environment = .ok found) :
    name.Keeps s (name.put { c with address := some found } u) where
  script := name.script_put.trans (Run.script_of_world hu)
  environment := name.environment_put.trans (Run.environment_of_world hu)
  target := by
    rw [name.target_of_find? name.find?_put, name.target_of_find? hfind, Connector.target,
      Connector.target, hfound]
    rfl

theorem keep_does (c : Connector) (found : String) : (do
    modify (name.put { c with address := some found })
    return found : Run String).Does fun s r es t =>
      r = .ok found ∧ es = [] ∧ t = name.put { c with address := some found } s := by
  refine (Run.Does.bind_eq (Run.Does.modify fun _ => name.happenings_put)
    (Run.Does.pure found)).mono ?_
  rintro s r es t ⟨u, es₁, es₂, rfl, ⟨rfl, rfl⟩, rfl, rfl, rfl⟩
  exact ⟨rfl, rfl, rfl⟩

/-- The address that a connector has is handed on; one that is found is kept. -/
theorem recall_does (c : Connector) : (match c.address with
    | some known => pure known
    | none => do
      let found ← findAddress c.settings
      modify (name.put { c with address := some found })
      return found : Run String).Does fun s r es t => name.find? s = some c →
        r = c.addressIn s.environment ∧ es = [] ∧ name.Keeps s t := by
  cases hc : c.address with
  | some known =>
    refine (Run.Does.pure known).mono ?_
    rintro s r es t ⟨rfl, rfl, rfl⟩ -
    exact ⟨by rw [Connector.addressIn, hc], rfl, .refl _⟩
  | none =>
    have hneeded : ∀ env, c.addressIn env = c.settings.addressIn env := by
      intro env
      rw [Connector.addressIn, hc]
    refine (Run.Does.bind (findAddress_does c.settings) (name.keep_does c)).mono ?_
    rintro s r es t (⟨e, rfl, he, rfl, ht⟩ |
      ⟨found, u, es₁, es₂, rfl, ⟨hfound, rfl, hu⟩, rfl, rfl, rfl⟩) hfind
    · exact ⟨by rw [hneeded, he], rfl, .of_world ht⟩
    · have haddress : c.addressIn s.environment = .ok found := by rw [hneeded, ← hfound]
      exact ⟨haddress.symm, rfl, .put name hfind hu haddress⟩

/-- Looking up the address finds what is connected to, and leaves it. -/
theorem address_does : name.address.Does fun s r es t =>
    r = (name.target s).map (·.1) ∧ es = [] ∧ name.Keeps s t := by
  refine (Run.Does.bind name.get_does name.recall_does).mono ?_
  rintro s r es t (⟨e, rfl, he, rfl, hkeeps, -⟩ |
    ⟨c, u, es₁, es₂, rfl, ⟨hc, rfl, hu, hfind⟩, haddress⟩)
  · exact ⟨by rw [target, ← he]; rfl, rfl, hkeeps⟩
  -- the connector is there in the session that it was found in, so its address is kept
  · obtain ⟨rfl, rfl, ht⟩ := haddress (hfind c rfl)
    refine ⟨?_, rfl, hu.trans ht⟩
    rw [target, ← hc, hu.environment]
    show _ = (c.target s.environment).map _
    rw [Connector.target]
    cases c.addressIn s.environment <;> rfl

end ConnectorName

end Relvar
