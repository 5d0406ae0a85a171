/-
When a migration is a success. A migration on a connector ends with a result if the names of
its models spell text. The result is a success exactly if every model is compiled and, unless
it is a dry run, all that is planned is attempted and each attempt is committed.
-/
import Relvar.Proofs.DryRun

set_option autoImplicit false

namespace Relvar

open Database (Event Target)

namespace Migration

variable {settings : CompilerSettings} {registry : Registry} {name : ConnectorName}
  {db : MigrationDatabase} {cs : List Compiled} {m : Migration} {executed : List String}
  {target : Target} {s t : Session} {es : List Event}

/-- Attempts that complete a plan: all that is planned is attempted, in its order, and each
attempt is committed. -/
structure Completes (plan : List (String × String)) (attempts : List Attempt) : Prop where
  whole : attempts.map (fun a => (a.step, a.statement)) = plan
  commits : ∀ a ∈ attempts, a.script.AnswersCommit a.events none

theorem plan_of_compiled (hcs : registry.compiled settings = .ok cs) :
    plan settings registry = ("test_connection", MigrationDatabase.testStatement) ::
      cs.map fun c => (tableStepName c.model, c.table) := by
  rw [plan, hcs]

/-- A migration has no more steps than the one that compiles and those that are planned. -/
theorem Follows.length_steps (h : m.Follows settings registry db executed s es t)
    (hcs : registry.compiled settings = .ok cs) :
    m.steps.length ≤ (plan settings registry).length + 1 := by
  rw [plan_of_compiled hcs]
  cases h with
  | uncompiled _ _ _ steps => simp [steps]
  | unconnected _ _ steps => simp [steps]
  | connected compiled _ creates steps =>
    obtain rfl := Registry.compiled_unique hcs compiled
    simp [steps, length_creates creates]

/-- If the models are compiled, the step that compiles them is a success. -/
theorem Follows.compiles (h : m.Follows settings registry db executed s es t)
    (hcs : registry.compiled settings = .ok cs) {x : Step} {xs : List Step}
    (hsteps : m.steps = x :: xs) : x.status = .success := by
  cases h with
  | @uncompiled pre post d e _ _ _ split _ refused =>
    exact absurd refused (Registry.not_refused_of_compiled hcs (by simp [split]))
  | unconnected _ _ steps compiles =>
    rw [steps] at hsteps
    obtain ⟨rfl, -⟩ := List.cons.inj hsteps
    exact compiles.status_success
  | connected _ _ _ steps compiles =>
    rw [steps] at hsteps
    obtain ⟨rfl, -⟩ := List.cons.inj hsteps
    exact compiles.status_success

/-- A migration that keeps the discipline is a success exactly if its attempts complete the
plan. Each attempt has a step that says whether it is committed; steps that are skipped are no
successes, and there is no room for them when all that is planned is attempted. -/
theorem success_iff {attempts : List Attempt} (hcs : registry.compiled settings = .ok cs)
    (hfollows : m.Follows settings registry db executed s es t)
    (h : Disciplined settings registry target s attempts (.ok m) es) :
    m.success = true ↔ Completes (plan settings registry) attempts := by
  obtain ⟨x, done, skipped, hsteps, hdone, hskipped⟩ := h.reports m rfl
  rw [hfollows.count.1, hsteps]
  constructor
  · intro hall
    have hcommits : ∀ a ∈ attempts, a.script.AnswersCommit a.events none := by
      intro a ha
      obtain ⟨y, hy, -, hstatus⟩ := forall₂_mem_left hdone ha
      exact hstatus.mp (hall y (by simp [hy]))
    -- no attempt fails, so none is left out
    have hresults : ∀ o ∈ attempts.map Attempt.outcome, o.2 = .ok () := by
      intro o ho
      obtain ⟨a, ha, rfl⟩ := List.mem_map.mp ho
      exact (h.each a ha).succeeds.mpr (hcommits a ha)
    refine ⟨?_, hcommits⟩
    rw [← h.obeys.whole hresults, List.map_map]
    rfl
  · rintro ⟨hwhole, hcommits⟩
    -- attempts for all that is planned leave no room for a step that is skipped
    have hlength := hfollows.length_steps hcs
    have hattempts : attempts.length = (plan settings registry).length := by
      rw [← hwhole, List.length_map]
    have hnone : skipped = [] := by
      rw [hsteps, List.length_cons, List.length_append, ← hdone.length_eq, hattempts] at hlength
      exact List.length_eq_zero_iff.mp (by omega)
    subst hnone
    rw [List.append_nil, List.forall_mem_cons]
    refine ⟨hfollows.compiles hcs hsteps, fun y hy => ?_⟩
    obtain ⟨a, ha, -, hstatus⟩ := forall₂_mem_right hdone hy
    exact hstatus.mpr (hcommits a ha)

/-- What must be done for a migration to be a success: every model is compiled and, unless it
is a dry run, the plan is completed. -/
structure Succeeds (settings : CompilerSettings) (registry : Registry) (isDryRun : Bool)
    (attempts : List Attempt) : Prop where
  compiles : ∀ d ∈ registry, ∃ c, (Compilation.ofDecl settings d).result = .ok c
  completes : isDryRun = false → Completes (plan settings registry) attempts

/-- How a migration on a connector to a target ends, with the attempts that it makes: none in a
dry run. -/
structure Ends (settings : CompilerSettings) (registry : Registry) (isDryRun : Bool)
    (target : Target) (s : Session) (attempts : List Attempt) (m : Migration)
    (es : List Event) : Prop where
  dry : isDryRun = true → attempts = [] ∧ es = []
  disciplined : isDryRun = false → Disciplined settings registry target s attempts (.ok m) es
  success : m.success = true ↔ Succeeds settings registry isDryRun attempts

/-- Of the session only the scripts of its database matter. -/
theorem Ends.of_scripts {s' : Session} {isDryRun : Bool} {attempts : List Attempt}
    (h : Ends settings registry isDryRun target s' attempts m es) (hscript : s'.script = s.script)
    (hupcoming : s'.upcoming = s.upcoming) :
    Ends settings registry isDryRun target s attempts m es where
  dry := h.dry
  disciplined := fun hreal => (h.disciplined hreal).of_scripts hscript hupcoming
  success := h.success

/-- While names spell text, no fault but the refusal of a declaration keeps models from being
compiled. -/
theorem refused_of_isNamed (hnamed : ∀ d ∈ registry, d.IsNamed) {e : Fault}
    (h : registry.compiled settings = .error e) : ∃ d, e = .declaration d := by
  obtain ⟨pre, d, post, hsplit, -, he⟩ := Registry.compiled_eq_error h
  obtain ⟨n, hn⟩ := hnamed d (by simp [hsplit])
  obtain ⟨c, field, rfl⟩ := Compilation.ofDecl_error hn he
  exact ⟨_, rfl⟩

theorem run_ends (settings : CompilerSettings) {registry : Registry}
    (hnamed : ∀ d ∈ registry, d.IsNamed) (name : ConnectorName) (isDryRun : Bool) :
    (run settings registry (.connector name) isDryRun).Does fun s r es _ =>
      ∃ m attempts, r = .ok m ∧
        Ends settings registry isDryRun (name.target s) s attempts m es := by
  cases hcompiled : registry.compiled settings with
  | error e =>
    obtain ⟨d, rfl⟩ := refused_of_isNamed hnamed hcompiled
    obtain ⟨x, hx, hreport⟩ := compileStep_refused hcompiled
    have hnone : ¬ ∀ d ∈ registry, ∃ c, (Compilation.ofDecl settings d).result = .ok c := by
      rw [← Registry.exists_compiled_iff, hcompiled]
      simp
    refine (run_answers fun moment => perform_refused hx hreport.status_failed _ isDryRun
      _).mono ?_
    rintro s r es t ⟨⟨moment, rfl⟩, rfl, -⟩
    exact ⟨_, [], rfl, fun _ => ⟨rfl, rfl⟩, fun _ => disciplined_uncompiled hcompiled
      fun m hm => ⟨x, by rw [← Except.ok.inj hm]⟩,
      iff_of_false Bool.false_ne_true fun h => hnone h.compiles⟩
  | ok cs =>
    obtain ⟨x, hx, hreport⟩ := compileStep_compiled hcompiled
    have hall := Registry.exists_compiled_iff.mp ⟨cs, hcompiled⟩
    cases isDryRun with
    | true =>
      refine (run_answers fun moment => perform_shows hx hreport.status_success _ moment).mono ?_
      rintro s r es t ⟨⟨moment, rfl⟩, rfl, -⟩
      exact ⟨_, [], rfl, fun _ => ⟨rfl, rfl⟩, nofun, iff_of_true rfl ⟨hall, nofun⟩⟩
    | false =>
      refine (run_follows hcompiled hx _).mono ?_
      rintro s r es t ⟨m, rfl, -, -, executed, hfollows⟩
      obtain ⟨attempts, hdisciplined⟩ := follows_disciplined hcompiled hfollows
      have hsuccess := success_iff hcompiled hfollows hdisciplined
      exact ⟨m, attempts, rfl, nofun, fun _ => hdisciplined,
        hsuccess.trans ⟨fun h => ⟨hall, fun _ => h⟩, fun h => h.completes rfl⟩⟩

end Migration

end Relvar
