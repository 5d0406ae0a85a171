/-
Command lines that leave the database alone. A dry run only shows what it would do, and a
generated module is written without a migration; neither asks the database for anything. But
an empty path counts as no path, so a command line that gives one may migrate after all.
-/
import Relvar.CommandLine.Deployment
import Relvar.Proofs.CommandLine.Request
import Relvar.Proofs.Database.Sending
import Relvar.Proofs.Happenings

set_option autoImplicit false

namespace Relvar.CommandLine

open Run (Adds)

/-- Something that happened without the database being asked. -/
def IsUnasked (h : Happening) : Prop := ∀ e, h ≠ .asked e

theorem isUnasked_logged (r : Log.Record) : IsUnasked (.logged r) := fun _ h => by cases h

theorem isUnasked_printed (text : String) : IsUnasked (.printed text) := fun _ h => by cases h

theorem isUnasked_complained (text : String) : IsUnasked (.complained text) :=
  fun _ h => by cases h

theorem isUnasked_wrote (path text : String) : IsUnasked (.wrote path text) :=
  fun _ h => by cases h

theorem adds_printLines (ls : List String) : (printLines ls).Adds IsUnasked := by
  induction ls with
  | nil => exact Adds.pure ()
  | cons l ls ih => exact (Adds.happen (isUnasked_printed _)).bind fun _ => ih

theorem adds_writeModule (cs : List Compiled) (path : String) :
    (Generated.writeModule cs path).Adds IsUnasked := by
  refine (Adds.ofExcept _).bind fun text => ?_
  have hwrite : ∀ line, (do
      Run.happen (.wrote (Path.ofText path).text text)
      Generated.writer.info line
      return Path.ofText path : Run Path).Adds IsUnasked := fun line =>
    (Adds.happen (isUnasked_wrote _ _)).bind fun _ =>
      (Run.adds_info isUnasked_logged _ line).bind fun _ => Adds.pure _
  split
  · exact (Adds.throw _).bind fun _ => hwrite _
  · exact hwrite _

theorem adds_emit (settings : CompilerSettings) (registry : Registry) (path : String) :
    (emit settings registry path).Adds IsUnasked := by
  refine ((Registry.adds_compileAll isUnasked_logged settings registry).bind fun cs =>
    adds_writeModule cs path).attempt.bind fun r => ?_
  split
  · exact (Adds.happen (isUnasked_printed _)).bind fun _ => Adds.pure _
  · split
    · exact (Adds.happen (isUnasked_complained _)).bind fun _ => Adds.pure _
    · exact Adds.throw _

theorem adds_databaseOf {p : Happening → Prop} (r : Request) : (databaseOf r).Adds p := by
  unfold databaseOf
  split
  · exact Adds.pure _
  · exact (ConnectorName.own.adds_make _ _).bind fun _ => Adds.pure _

/-- A request is carried out without the database if it is for a dry run, or gives a path that
is not empty. -/
theorem adds_deploy (r : Request) (registry : Registry)
    (h : r.isDryRun = true ∨ r.emit.filter (· != "") ≠ none) :
    (deploy r registry).Adds IsUnasked := by
  refine (adds_databaseOf r).bind fun db => Run.adds_settings.bind fun known => ?_
  -- the path is looked at before the dry run is
  dsimp only
  split
  · exact adds_emit _ registry _
  · next hnone =>
    have hdry : r.isDryRun = true := h.resolve_right fun hsome => hsome hnone
    have hrun := fun settings => Migration.adds_run (p := IsUnasked) isUnasked_logged settings
      registry db r.isDryRun (.inl hdry)
    split
    · exact (hrun _).bind fun m => (Adds.ofExcept _).bind fun text =>
        (Adds.happen (isUnasked_printed _)).bind fun _ => Adds.pure _
    · exact (adds_printLines _).bind fun _ => (Adds.ofExcept _).bind fun lines =>
        (adds_printLines _).bind fun _ => (hrun _).bind fun m =>
          (adds_printLines _).bind fun _ => Adds.pure _

theorem adds_perform (c : Catalogue) (r : Request)
    (h : r.isDryRun = true ∨ r.emit.filter (· != "") ≠ none) :
    (perform c r).Adds IsUnasked := by
  have hsetUp : (Run.setUpLog (.str (levelWord r)) r.hasJsonLogs).Adds IsUnasked :=
    Adds.get.bind fun s => (Adds.ofExcept _).bind fun setup =>
      (Adds.modify fun _ => rfl).bind fun _ => Adds.pure setup
  refine hsetUp.bind fun _ => (c.adds_load isUnasked_logged _).attempt.bind fun loaded => ?_
  split
  · exact adds_deploy r _ h
  · split
    · exact (Adds.happen (isUnasked_complained _)).bind fun _ => Adds.pure _
    · exact Adds.throw _

/-- A command line that the database is spared: each request that is made of it is for a dry
run, or gives a path that is not empty. -/
theorem adds_run (c : Catalogue) (arguments : List String)
    (h : ∀ r, Request.ofArguments arguments = .ok r →
      r.isDryRun = true ∨ r.emit.filter (· != "") ≠ none) :
    (run c arguments).Adds IsUnasked := by
  unfold run
  split
  · next r hr => exact adds_perform c r (h r hr)
  · exact (Adds.happen (isUnasked_printed _)).bind fun _ => Adds.pure _
  · exact (Adds.happen (isUnasked_printed _)).bind fun _ => Adds.pure _
  · exact (Adds.happen (isUnasked_complained _)).bind fun _ => Adds.pure _

/-- An empty path counts as no path. -/
theorem perform_emptyPath (c : Catalogue) {r : Request} (h : r.emit = some "") :
    perform c r = perform c { r with emit := none } := by
  have hdeploy : deploy r = deploy { r with emit := none } := by
    funext registry
    simp only [deploy, h]
    rfl
  simp only [perform, hdeploy]
  rfl

/-- **Generating spares the database.** Among whatever arguments a dry run is asked for, or a
path is given and the one that counts is not empty, the database is not asked for anything. An
empty path is carried out like no path. -/
theorem generating_spares_database (c : Catalogue) (arguments : List String) :
    (Opt.dryRun.IsGiven arguments ∨ Opt.emit.IsGiven arguments ∧
        (∀ r, Request.ofArguments arguments = .ok r → r.emit ≠ some "") →
      (run c arguments).Does fun _ _ es _ => es = []) ∧
    ∀ r : Request, r.emit = some "" → perform c r = perform c { r with emit := none } := by
  refine ⟨fun h => (adds_run c arguments fun r hr => ?_).does, fun r => perform_emptyPath c⟩
  rcases h with hdry | ⟨hemit, hpath⟩
  · obtain ⟨isShort, attached, hshows⟩ := Request.shows_of_isGiven hr hdry
    exact .inl hshows
  · obtain ⟨isShort, attached, hshows⟩ := Request.shows_of_isGiven hr hemit
    obtain ⟨path, hsome⟩ := Option.isSome_iff_exists.mp hshows
    have hne : path ≠ "" := fun hempty => hpath r hr (hempty ▸ hsome)
    refine .inr ?_
    simp [hsome, hne]

/-- A catalogue of one module with one model. -/
def visitsCatalogue : Catalogue := [⟨"app", [("MODELS", .registry [visitsDecl])]⟩]

/-- The arguments that migrate the sample, or write it to a path. -/
def visitsArguments (path : String) : List String :=
  ["--models", "app:MODELS", "--connection", "postgresql://db", "--emit", path]

theorem emit_isGiven (path : String) : Opt.emit.IsGiven (visitsArguments path) :=
  ⟨"--emit", by simp [visitsArguments], false, .none, rfl⟩

theorem generating_spares_database_visits :
    Opt.emit.IsGiven (visitsArguments "out.py") ∧
    (∀ r, Request.ofArguments (visitsArguments "out.py") = .ok r → r.emit ≠ some "") ∧
    (run visitsCatalogue (visitsArguments "out.py")).Does fun _ _ es _ => es = [] := by
  have hpath : ∀ r, Request.ofArguments (visitsArguments "out.py") = .ok r →
      r.emit ≠ some "" := by
    intro r hr
    have hrequest : Request.ofArguments (visitsArguments "out.py") =
        .ok ⟨some "app:MODELS", false, some "out.py", some "postgresql://db", false, false, []⟩ :=
      rfl
    rw [hrequest] at hr
    rw [← Except.ok.inj hr]
    decide
  exact ⟨emit_isGiven _, hpath, (generating_spares_database visitsCatalogue _).1
    (.inr ⟨emit_isGiven _, hpath⟩)⟩

/-- A migration is carried out although a module is to be generated, if the path is empty. -/
theorem emptyPath_migrates :
    Opt.emit.IsGiven (visitsArguments "") ∧
    ¬ (run visitsCatalogue (visitsArguments "")).Does fun _ _ es _ => es = [] := by
  refine ⟨emit_isGiven _, fun h => ?_⟩
  obtain ⟨es, hes, rfl⟩ := h calmSession
  have hsent : (Database.sent (Happening.events ((run visitsCatalogue
      (visitsArguments "")).run calmSession).2.happenings)).map Prod.fst =
      [MigrationDatabase.testStatement, visits.table] := by decide +kernel
  rw [hes] at hsent
  cases hsent

end Relvar.CommandLine
