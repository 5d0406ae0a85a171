/-
Steady runs. A run is steady if it leaves what a connector connects to as it is, whatever
else it does to the session. Steps that log, ask the database for something or look up the
connector are steady; so are runs put together from them, and whole connections on which
something steady is done.
-/
import Relvar.Proofs.Database.Sending

set_option autoImplicit false

namespace Relvar

namespace ConnectorName

open Run (Answers)

variable {α β : Type} {m : Run α} {f : α → Run β}

/-- A run that leaves what a connector connects to. -/
def Steady (name : ConnectorName) (m : Run α) : Prop :=
  m.Does fun s _ _ t => name.target t = name.target s

/-! ## Steps -/

variable {name : ConnectorName}

theorem Steady.bind (h : name.Steady m) (hf : ∀ a, name.Steady (f a)) :
    name.Steady (m >>= f) := by
  refine (Run.Does.bind h hf).mono ?_
  rintro s r es t (⟨e, rfl, ht⟩ | ⟨a, u, es₁, es₂, rfl, hu, ht⟩)
  · exact ht
  · exact ht.trans hu

theorem steady_of_answers {r : Except Fault α} (h : m.Answers r) : name.Steady m :=
  Run.Does.mono h fun _ _ _ _ ⟨_, _, ht⟩ => name.target_of_world ht

theorem steady_pure (a : α) : name.Steady (pure a : Run α) := steady_of_answers (Answers.pure a)

theorem steady_ofExcept (r : Except Fault α) : name.Steady (Run.ofExcept r) :=
  steady_of_answers (Answers.ofExcept r)

theorem steady_get : name.Steady (MonadState.get : Run Session) :=
  Run.Does.get.mono fun _ _ _ _ ⟨_, _, ht⟩ => by rw [ht]

theorem steady_ask (e : Database.Event) : name.Steady (Run.ask e) :=
  (Run.Does.ask e).mono fun _ _ _ _ ⟨_, _, ht⟩ => name.target_of_world (by rw [ht]; rfl)

theorem Steady.attempt (h : name.Steady m) : name.Steady m.attempt :=
  (Run.Does.attempt h).mono fun _ _ _ _ ⟨_, _, ht⟩ => ht

theorem Steady.thenAlways {cleanUp : Run Unit} (h : name.Steady m) (hc : name.Steady cleanUp) :
    name.Steady (m.thenAlways cleanUp) :=
  h.attempt.bind fun r => hc.bind fun _ => steady_ofExcept r

theorem Steady.within (change : Log.Context → Log.Context) (h : name.Steady m) :
    name.Steady (Run.within change m) := by
  refine (Run.Does.within change h).mono ?_
  rintro s r es t ⟨s', t', hs, ht, hkept⟩
  rw [← name.target_of_world ht, hkept, name.target_of_world hs]

/-! ## Connections -/

/-- The scripts of the database have no part in what is connected to. -/
theorem target_scripts (s : Session) (script : Database.Script) (upcoming : List Database.Script) :
    name.target { s with script := script, upcoming := upcoming } = name.target s := by
  cases name <;> rfl

theorem steady_execute (st : String) (params : Database.SentParameters) :
    name.Steady (Database.execute st params) := by
  have hnext : name.Steady Database.nextOutcome := by
    intro s
    rw [Run.run_nextOutcome]
    exact ⟨[], (List.append_nil _).symm, target_scripts s _ s.upcoming⟩
  exact (steady_ask _).bind fun _ => hnext.bind fun o =>
    (steady_of_answers (Database.failWith_answers o.error)).bind fun _ => steady_pure o

theorem steady_commit : name.Steady Database.commit :=
  (steady_ask _).bind fun _ => steady_get.bind fun s =>
    steady_of_answers (Database.failWith_answers s.script.commitError)

theorem Steady.withCursor (h : name.Steady m) : name.Steady (Database.withCursor m) :=
  (steady_ask _).bind fun _ => h.thenAlways (steady_ask _)

theorem Steady.onScript (h : name.Steady m) : name.Steady (Database.onScript m) := by
  refine (Database.onScript_does h).mono ?_
  rintro s r es t ⟨u, hu, rfl⟩
  rw [← hu]
  cases s.upcoming with
  | nil => rfl
  | cons script rest => exact target_scripts u script rest

theorem steady_establish : name.Steady name.establish := by
  have hget : name.Steady name.get :=
    name.get_does.mono fun _ _ _ _ ⟨_, _, hkeeps, _⟩ => hkeeps.target
  have haddress : name.Steady name.address :=
    name.address_does.mono fun _ _ _ _ ⟨_, _, hkeeps⟩ => hkeeps.target
  exact (steady_of_answers (Run.Silent.debug _ _)).bind fun _ => hget.bind fun c =>
    haddress.bind fun address => (steady_ask _).bind fun _ => steady_get.bind fun s =>
      steady_of_answers (connected_answers s.script.connectError)

theorem steady_settle (r : Except Fault α) : name.Steady (settle r) := by
  cases r with
  | ok a => exact steady_pure ()
  | error e =>
    refine (steady_of_answers (silent_tellReported e)).bind fun _ => ?_
    split
    · exact steady_ask _
    · exact steady_pure ()

/-- A connection leaves what is connected to, whichever way it ends, if what is done on it does. -/
theorem Steady.withConnection (h : name.Steady m) : name.Steady (name.withConnection m) :=
  (steady_establish.bind fun _ => h.attempt.bind fun r => (steady_settle r).bind fun _ =>
    (steady_ask _).bind fun _ => steady_ofExcept r).onScript

end ConnectorName

end Relvar
