/-
A dry run against the migration that it stands for. Both compile a registry in one way, so
they begin with the same step and list the same statements, or end with the same fault. From
there they are written apart: the dry run shows a step for each table, and the migration
creates tables up to the first that fails. What it executes is a front part of what the dry
run shows, so the statements that stand at one place are the same.
-/
import Relvar.Proofs.Connections

set_option autoImplicit false

namespace Relvar

open Database (Event)

namespace MigrationDatabase

variable {db : MigrationDatabase} {cs : List Compiled} {steps : List Step}
  {executed : List String} {s t : Session} {es : List Event}

/-- Of statements that are executed up to the first that fails, those that are sent come first:
only the last one may not be sent. -/
theorem Executes.sent_prefix {rs : List (Except Fault Unit)}
    (h : db.Executes executed rs s es t) (hstops : ∀ r ∈ rs.dropLast, r = .ok ()) :
    (Database.sent es).map Prod.fst <+: executed := by
  induction h with
  | nil => exact List.nil_prefix
  | @cons st r sts rs s t u es es' call rest ih =>
    obtain ⟨s', t', -, -, hsends⟩ := Run.Does.of_calls (db.execute_sends st) call
    rw [Database.sent_append, List.map_append]
    -- only behind the last statement is there room for one that is not sent
    cases rs with
    | nil =>
      cases rest with
      | nil =>
        rcases hsends with ⟨params, hes⟩ | ⟨hes, -⟩ <;> simp [hes, Database.sent]
    | cons r' rs =>
      rw [List.dropLast_cons_cons, List.forall_mem_cons] at hstops
      obtain ⟨rfl, hstops⟩ := hstops
      rcases hsends with ⟨params, hes⟩ | ⟨-, e, he⟩
      · rw [hes]
        exact (List.prefix_cons_inj st).mpr (ih hstops)
      · cases he

/-- What is sent while tables are created is a front part of their statements. -/
theorem Creates.sent_prefix (h : db.Creates cs steps executed s es t) :
    (Database.sent es).map Prod.fst <+: cs.map Compiled.table := by
  cases h with
  | all statements run _ =>
    rw [statements] at run
    refine run.sent_prefix fun r hr => ?_
    obtain ⟨c, -, rfl⟩ := List.mem_map.mp (List.dropLast_subset _ hr)
    rfl
  -- the statement that failed was sent; the ones behind it were not
  | @stopped pre post c e xs x split statements run steps_eq reports failed =>
    rw [statements] at run
    have hsent := run.sent_prefix fun r hr => by
      rw [List.dropLast_concat] at hr
      obtain ⟨c, -, rfl⟩ := List.mem_map.mp hr
      rfl
    refine hsent.trans ⟨post.map Compiled.table, ?_⟩
    rw [split, List.map_append, List.map_cons, List.append_assoc]
    rfl

/-- A table has a step of its name, whether it is created, fails, or is skipped. -/
theorem Creates.names (h : db.Creates cs steps executed s es t) :
    steps.map Step.name = cs.map fun c => Migration.tableStepName c.model := by
  -- what is created in front of a failure is named as if all were created
  have hnamed : ∀ {cs : List Compiled} {xs : List Step}, List.Forall₂
      (fun c x => x.Reports (Migration.tableStepName c.model) (.ok ())) cs xs →
      xs.map Step.name = cs.map fun c => Migration.tableStepName c.model := by
    intro cs xs hreports
    induction hreports with
    | nil => rfl
    | cons hreport _ ih => rw [List.map_cons, List.map_cons, hreport.name_eq, ih]
  cases h with
  | all _ _ reports => exact hnamed reports
  | @stopped pre post c e xs x split _ _ steps_eq reports failed =>
    have hskipped : (post.map Migration.skippedStep).map Step.name =
        post.map fun c => Migration.tableStepName c.model := List.map_map
    rw [steps_eq, split, List.map_append, List.map_append, List.map_cons, List.map_cons,
      hnamed reports, failed.name_eq, hskipped]

end MigrationDatabase

namespace Migration

variable {settings : CompilerSettings} {registry : Registry} {db : MigrationDatabase}
  {cs : List Compiled} {x : Step} {m : Migration} {executed : List String} {s t : Session}
  {es : List Event}

/-! ## What a migration sends -/

/-- What a migration sends is the statement that tests the connection, if that is sent, and
then a front part of the statements that it lists. -/
theorem Follows.sent_prefix (h : m.Follows settings registry db executed s es t) :
    ∃ tested done, (Database.sent es).map Prod.fst = tested ++ done ∧
      tested <+: [MigrationDatabase.testStatement] ∧ done <+: m.statements := by
  cases h with
  | uncompiled => exact ⟨[], [], rfl, List.nil_prefix, List.nil_prefix⟩
  | unconnected _ test =>
    obtain ⟨s', t', -, -, htest⟩ := Run.Does.of_calls db.test_sends test
    exact ⟨_, [], (List.append_nil _).symm, htest, List.nil_prefix⟩
  | connected _ test creates _ _ _ statements =>
    obtain ⟨s', t', -, -, htest⟩ := Run.Does.of_calls db.test_sends test
    refine ⟨_, _, ?_, htest, statements ▸ creates.sent_prefix⟩
    rw [Database.sent_append, List.map_append]

/-- Behind the test of the connection, if that is passed, the steps are those of the tables. -/
theorem Follows.names (h : m.Follows settings registry db executed s es t)
    (hcs : registry.compiled settings = .ok cs) {y : Step} {ys : List Step}
    (hsteps : m.steps.tail = y :: ys) :
    y.name = "test_connection" ∧ (y.status = .success →
      ys.map Step.name = cs.map fun c => tableStepName c.model) := by
  cases h with
  | uncompiled _ _ _ steps =>
    rw [steps] at hsteps
    cases hsteps
  | unconnected _ _ steps _ report =>
    rw [steps] at hsteps
    obtain ⟨rfl, rfl⟩ := List.cons.inj hsteps
    refine ⟨report.name_eq, fun hstatus => ?_⟩
    rw [report.status_failed] at hstatus
    cases hstatus
  | connected compiled _ creates steps _ report =>
    rw [steps] at hsteps
    obtain ⟨rfl, rfl⟩ := List.cons.inj hsteps
    -- the models are compiled in one way, so both lists of tables are the same
    obtain rfl := Registry.compiled_unique hcs compiled
    exact ⟨report.name_eq, fun _ => creates.names⟩

theorem Follows.statements_eq (h : m.Follows settings registry db executed s es t)
    (hcs : registry.compiled settings = .ok cs) : m.statements = cs.map Compiled.table := by
  cases h with
  | @uncompiled pre post d e _ _ _ split _ refused =>
    exact absurd refused (Registry.not_refused_of_compiled hcs (by simp [split]))
  | unconnected compiled _ _ _ _ statements =>
    obtain rfl := Registry.compiled_unique hcs compiled
    exact statements
  | connected compiled _ _ _ _ _ statements =>
    obtain rfl := Registry.compiled_unique hcs compiled
    exact statements

/-! ## How both begin -/

/-- A migration begins with the step that compiles, whatever comes after it. -/
theorem perform_begins (hx : (compileStep settings registry).Answers (.ok (x, cs)))
    (db : MigrationDatabase) (blank : Migration) :
    (perform settings registry db false blank).Returns fun m => m.steps.head? = some x := by
  refine Run.Returns.bind hx.returns ?_
  rintro _ rfl
  dsimp only
  split
  · exact Run.Returns.pure rfl
  · refine Run.Returns.after fun y => ?_
    split
    · exact Run.Returns.pure rfl
    · exact Run.Returns.after fun tables => Run.Returns.pure rfl

/-- The migration that a dry run shows. -/
def shown (moment : Moment) (registry : Registry) (x : Step) (cs : List Compiled) : Migration :=
  ⟨moment, true, true, registry.names, cs.map Compiled.table, x :: cs.map dryStep, []⟩

theorem silent_tellDry (cs : List Compiled) : Run.Silent (tellDry cs) := by
  induction cs with
  | nil => exact Run.Answers.pure ()
  | cons c cs ih => exact (Run.Silent.info _ _).after ih

theorem perform_shows (hx : (compileStep settings registry).Answers (.ok (x, cs)))
    (hstatus : x.status = .success) (db : MigrationDatabase) (moment : Moment) :
    (perform settings registry db true
      ⟨moment, true, false, registry.names, [], [], []⟩).Answers
        (.ok (shown moment registry x cs)) := by
  refine hx.after ?_
  simp only [hstatus, reduceCtorEq, if_false, if_true]
  exact (silent_tellDry cs).after (Run.Answers.pure _)

theorem generate_answers (settings : CompilerSettings) (registry : Registry) :
    (generate settings registry).Answers
      ((registry.compiled settings).bind fun cs => .ok (cs.map Compiled.table)) :=
  (registry.compileAll_answers settings).bind fun cs => Run.Answers.pure (cs.map Compiled.table)

/-- What is performed without asking for anything is what a migration ends with. -/
theorem run_answers {isDryRun : Bool} {g : Moment → Except Fault Migration}
    (h : ∀ moment, (perform settings registry db isDryRun
      ⟨moment, isDryRun, false, registry.names, [], [], []⟩).Answers (g moment)) :
    (run settings registry db isDryRun).Does fun s r es t =>
      (∃ moment, r = g moment) ∧ es = [] ∧ t.world = s.world := by
  refine (run_tells (P := fun s r es t => (∃ moment, r = g moment) ∧ es = [] ∧
    t.world = s.world) fun moment => ?_).mono ?_
  · exact Run.Does.mono (h moment) fun _ _ _ _ ⟨hr, hes, ht⟩ => ⟨⟨moment, hr⟩, hes, ht⟩
  · rintro s r es t ⟨s', t', hs, ht, hr, hes, hworld⟩
    exact ⟨hr, hes, ht.trans (hworld.trans hs)⟩

/-- A migration whose models are compiled begins with the step that compiles them, and follows
its course. -/
theorem run_follows (hcs : registry.compiled settings = .ok cs)
    (hx : (compileStep settings registry).Answers (.ok (x, cs))) (db : MigrationDatabase) :
    (run settings registry db false).Does fun s r es t => ∃ m, r = .ok m ∧
      m.models = registry.names ∧ m.steps.head? = some x ∧
      ∃ executed, m.Follows settings registry db executed s es t := by
  refine (run_tells (P := fun s r es t => ∃ m, r = .ok m ∧ m.models = registry.names ∧
    m.steps.head? = some x ∧ ∃ executed, m.Follows settings registry db executed s es t)
    fun moment => ?_).mono ?_
  · intro s
    obtain ⟨es, hes, m, hr, executed, hmodels, hfollows⟩ :=
      perform_follows settings registry db (isNamed_of_compiled hcs) moment s
    exact ⟨es, hes, m, hr, hmodels, perform_begins hx db _ s m hr, executed, hfollows⟩
  · rintro s r es t ⟨s', t', hs, ht, m, hr, hmodels, hbegins, executed, hfollows⟩
    exact ⟨m, hr, hmodels, hbegins, executed, hfollows.congr hs ht⟩

/-- The step that compiles is the same wherever it is taken: all models are compiled, or the
registry is refused, or it is a fault that ends the migration. -/
theorem compileStep_outcome (settings : CompilerSettings) (registry : Registry) :
    (∃ cs x, registry.compiled settings = .ok cs ∧
      (compileStep settings registry).Answers (.ok (x, cs)) ∧ x.status = .success) ∨
    (∃ e x, registry.compiled settings = .error e ∧
      (compileStep settings registry).Answers (.ok (x, [])) ∧ x.status = .failed) ∨
    ∃ e, registry.compiled settings = .error e ∧
      (compileStep settings registry).Answers (.error e) := by
  cases hcompiled : registry.compiled settings with
  | ok cs =>
    obtain ⟨x, hx, hreport⟩ := compileStep_compiled hcompiled
    exact .inl ⟨cs, x, rfl, hx, hreport.status_success⟩
  | error e =>
    by_cases he : ∃ d, e = .declaration d
    · obtain ⟨d, rfl⟩ := he
      obtain ⟨x, hx, hreport⟩ := compileStep_refused hcompiled
      exact .inr (.inl ⟨_, x, rfl, hx, hreport.status_failed⟩)
    · exact .inr (.inr ⟨e, rfl, compileStep_raises hcompiled fun d hd => he ⟨d, hd⟩⟩)

/-! ## What a dry run foretells -/

/-- What a dry run shows of the migration that it stands for, with what that asks for. The
models, the step that compiles and the statements are the same, and generating returns no
others. If the connection is tested and that is passed, the steps of tables have the names
that the dry run shows; what is executed, one after the other, is what its steps show. -/
structure Foretells (settings : CompilerSettings) (registry : Registry) (dry real : Migration)
    (es : List Event) : Prop where
  models : real.models = dry.models
  compiles : real.steps.head? = dry.steps.head?
  statements : real.statements = dry.statements
  generated : ∀ s sts, ((generate settings registry).run s).1 = .ok sts → dry.statements = sts
  tables : ∀ y ys, real.steps.tail = y :: ys → y.name = "test_connection" ∧
    (y.status = .success → ys.map Step.name = dry.steps.tail.map Step.name)
  executes : ∃ tested executed, (Database.sent es).map Prod.fst = tested ++ executed ∧
    tested <+: [MigrationDatabase.testStatement] ∧
    executed.map (fun st => [("statement", Value.str st)]) <+: dry.steps.tail.map Step.details

theorem foretells_shown (hcs : registry.compiled settings = .ok cs) {moment : Moment}
    (hmodels : m.models = registry.names) (hbegins : m.steps.head? = some x)
    (hfollows : m.Follows settings registry db executed s es t) :
    Foretells settings registry (shown moment registry x cs) m es := by
  constructor
  case models => exact hmodels
  case compiles => exact hbegins
  case statements => exact hfollows.statements_eq hcs
  case generated =>
    intro s sts hsts
    rw [(generate_answers settings registry).outcome s, hcs] at hsts
    exact Except.ok.inj hsts
  case tables =>
    intro y ys hsteps
    -- a dry run has one step for each table, as if none of them failed
    have hdry : (shown moment registry x cs).steps.tail.map Step.name =
        cs.map fun c => tableStepName c.model := List.map_map
    rw [hdry]
    exact hfollows.names hcs hsteps
  case executes =>
    obtain ⟨tested, executed, hsent, htested, hexecuted⟩ := hfollows.sent_prefix
    have hdry : (shown moment registry x cs).steps.tail.map Step.details =
        (cs.map Compiled.table).map fun st => [("statement", Value.str st)] := by
      rw [List.map_map]
      exact List.map_map
    rw [hfollows.statements_eq hcs] at hexecuted
    exact ⟨tested, executed, hsent, htested, hdry ▸ hexecuted.map _⟩

/-- Of a registry that is refused a dry run shows no more than the step that compiles, and the
migration does nothing else. -/
theorem foretells_refused {e : Fault} {dry : Migration} (he : registry.compiled settings = .error e)
    (hmodels : m.models = dry.models) (hsteps : m.steps = [x]) (hdry : dry.steps = [x])
    (hstatements : m.statements = []) (hnone : dry.statements = []) :
    Foretells settings registry dry m [] := by
  constructor
  case models => exact hmodels
  case compiles => rw [hsteps, hdry]
  case statements => rw [hstatements, hnone]
  case generated =>
    intro s sts hsts
    rw [(generate_answers settings registry).outcome s, he] at hsts
    cases hsts
  case tables =>
    intro y ys hys
    rw [hsteps] at hys
    cases hys
  case executes => exact ⟨[], [], rfl, List.nil_prefix, List.nil_prefix⟩

/-- How a migration may end next to a dry run: both with the same fault before anything is asked
for, or with a result that the dry run foretells. -/
inductive Foretold (settings : CompilerSettings) (registry : Registry) :
    Except Fault Migration → Except Fault Migration → List Event → Prop
  | failed (e : Fault) : Foretold settings registry (.error e) (.error e) []
  | ended {dry real : Migration} {es : List Event}
      (foretells : Foretells settings registry dry real es) :
      Foretold settings registry (.ok dry) (.ok real) es

/-- A dry run ends in a way that depends on no more than the moment, and foretells how the
migration ends. -/
theorem run_foretold (settings : CompilerSettings) (registry : Registry)
    (dryDb db : MigrationDatabase) : ∃ g : Moment → Except Fault Migration,
      ((run settings registry dryDb true).Does fun s r es t =>
        (∃ moment, r = g moment) ∧ es = [] ∧ t.world = s.world) ∧
      ∀ moment,
        ((∃ m, g moment = .ok m ∧ m.success = true) ↔ ∃ cs, registry.compiled settings = .ok cs) ∧
        (run settings registry db false).Does fun _ r es _ =>
          Foretold settings registry (g moment) r es := by
  -- three ways to end: compiled, refused, or a fault that is not reported on
  rcases compileStep_outcome settings registry with ⟨cs, x, hcs, hx, hstatus⟩ |
    ⟨e, x, he, hx, hstatus⟩ | ⟨e, he, hx⟩
  · refine ⟨_, run_answers fun moment => perform_shows hx hstatus dryDb moment, fun moment =>
      ⟨iff_of_true ⟨_, rfl, rfl⟩ ⟨cs, hcs⟩, (run_follows hcs hx db).mono ?_⟩⟩
    rintro s r es t ⟨m, rfl, hmodels, hbegins, executed, hfollows⟩
    exact .ended (foretells_shown hcs hmodels hbegins hfollows)
  · refine ⟨_, run_answers fun moment => perform_refused hx hstatus dryDb true _, fun moment =>
      ⟨iff_of_false ?_ ?_, (run_answers fun moment =>
        perform_refused hx hstatus db false _).mono ?_⟩⟩
    · rintro ⟨m, hm, hsuccess⟩
      rw [← Except.ok.inj hm] at hsuccess
      cases hsuccess
    · simp [he]
    · rintro s r es t ⟨⟨moment', rfl⟩, rfl, -⟩
      exact .ended (foretells_refused he rfl rfl rfl rfl rfl)
  · refine ⟨_, run_answers fun moment => perform_raises hx dryDb true _, fun moment =>
      ⟨iff_of_false (by simp) (by simp [he]), (run_answers fun moment =>
        perform_raises hx db false _).mono ?_⟩⟩
    rintro s r es t ⟨⟨moment', rfl⟩, rfl, -⟩
    exact .failed e

/-- **A dry run foretells the migration.** It asks for nothing, and succeeds exactly if every
model is compiled; how a migration of the same registry ends, on any database, is foretold. -/
theorem dry_run_foretells (settings : CompilerSettings) (registry : Registry)
    (dryDb db : MigrationDatabase) :
    ((run settings registry dryDb true).Does fun s r es t => es = [] ∧ t.world = s.world ∧
      ((∃ m, r = .ok m ∧ m.success = true) ↔ ∀ d ∈ registry, ∃ c,
        ((Compiler.compile settings (.model d) .null).run s).1 = .ok c)) ∧
    ∀ s, (run settings registry db false).Does fun _ r es _ =>
      Foretold settings registry ((run settings registry dryDb true).run s).1 r es := by
  obtain ⟨g, hdry, hforetold⟩ := run_foretold settings registry dryDb db
  constructor
  · refine hdry.mono ?_
    rintro s r es t ⟨⟨moment, rfl⟩, rfl, hworld⟩
    refine ⟨rfl, hworld, (hforetold moment).1.trans (Registry.exists_compiled_iff.trans ?_)⟩
    refine forall₂_congr fun d _ => exists_congr fun c => ?_
    rw [(Compiler.compile_answers settings (.model d) .null).outcome s]
    rfl
  · intro s
    obtain ⟨-, -, ⟨moment, hmoment⟩, -⟩ := hdry s
    rw [hmoment]
    exact (hforetold moment).2

/-- A database that is lost while the second table is created has been sent two of the three
statements that a dry run shows. -/
example :
    let lost := ⟨none, none, [.success, ⟨some (.backend .operational "lost"), 0, .null⟩]⟩
    let s := ((run .default visitsRegistry .brought false).run
      { calmSession with script := lost }).2
    let dry := ((run .default visitsRegistry .brought true).run calmSession).1
    dry.toOption.map (fun m => (m.statements.length, m.statements.take 2)) =
      some (3, (Database.sent (Happening.events s.happenings)).map Prod.fst) := by decide +kernel

end Migration

end Relvar
