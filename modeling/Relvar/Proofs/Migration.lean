/-
What a migration does, step by step. Every model is compiled before the database is
asked for anything; then the connection is tested; then one table after the other is
created until one fails, and the tables after it are skipped. Whatever the database does,
the migration ends with a result, and the result says of each step how it went.
-/
import Relvar.Migration
import Relvar.Proofs.Compilation.Validity
import Relvar.Proofs.Database.Sending

set_option autoImplicit false

namespace Relvar

/-! ## Calls -/

namespace Run

variable {α β : Type} {m : Run α} {s t : Session} {r : Except Fault α}
  {es : List Database.Event} {P : Session → Except Fault α → List Database.Event → Session → Prop}

/-- A run is called between two sessions if it takes the one to the other, but for their
logs. The call ends in some way and has a trace. -/
def Calls (m : Run α) (s : Session) (r : Except Fault α) (es : List Database.Event)
    (t : Session) : Prop :=
  ∃ s' t', s'.world = s.world ∧ t.world = t'.world ∧ m.run s' = (r, t') ∧
    Happening.events t'.happenings = Happening.events s'.happenings ++ es

/-- A run that has a trace is a call of itself. -/
theorem Does.calls (h : m.Does P) : m.Does m.Calls := by
  intro s
  obtain ⟨es, hes, -⟩ := h s
  exact ⟨es, hes, s, (m.run s).2, rfl, rfl, rfl, hes⟩

theorem Calls.congr {s₀ t₀ : Session} (h : m.Calls s r es t) (hs : s.world = s₀.world)
    (ht : t₀.world = t.world) : m.Calls s₀ r es t₀ := by
  obtain ⟨s', t', hs', ht', hrun, hes⟩ := h
  exact ⟨s', t', hs'.trans hs, ht.trans ht', hrun, hes⟩

/-- What a run does in general it does in each of its calls. -/
theorem Does.of_calls (h : m.Does P) (hcall : m.Calls s r es t) :
    ∃ s' t', s'.world = s.world ∧ t.world = t'.world ∧ P s' r es t' := by
  obtain ⟨s', t', hs, ht, hrun, hes⟩ := hcall
  obtain ⟨es', hes', hP⟩ := h s'
  rw [hrun] at hes' hP
  obtain rfl := List.append_cancel_left (hes'.symm.trans hes)
  exact ⟨s', t', hs, ht, hP⟩

/-- A run that is attempted and reported on, whatever its outcome. -/
theorem Does.report {f : Except Fault α → Run β} {R : Except Fault α → β → Prop} (h : m.Does P)
    (hf : ∀ r, ∃ b, (f r).Answers (.ok b) ∧ R r b) :
    (m.attempt >>= f).Does fun s r es t =>
      ∃ b, r = .ok b ∧ ∃ r', R r' b ∧ m.Calls s r' es t := by
  intro s
  obtain ⟨es, hes, hcall⟩ := h.calls s
  obtain ⟨b, hb, hR⟩ := hf (m.run s).1
  obtain ⟨es', hes', hr, rfl, hworld⟩ := hb (m.run s).2
  rw [run_bind, run_attempt]
  refine ⟨es, ?_, b, hr, (m.run s).1, hR, hcall.congr rfl hworld⟩
  rw [hes', hes, List.append_nil]

end Run

/-! ## Compiling a registry -/

namespace Registry

open Run (Answers)

/-- The compiled models of a registry, or the first refusal. -/
def compiled (settings : CompilerSettings) (registry : Registry) : Except Fault (List Compiled) :=
  registry.mapM fun d => (Compilation.ofDecl settings d).result

theorem compileAll_answers (settings : CompilerSettings) (registry : Registry) :
    (registry.compileAll settings).Answers (registry.compiled settings) := by
  induction registry with
  | nil => exact Answers.pure []
  | cons d rest ih =>
    rw [compiled, List.mapM_cons]
    exact (Compiler.tell_answers (.ofDecl settings d)).bind fun c => ih.bind fun cs =>
      Answers.pure (c :: cs)

variable {settings : CompilerSettings} {registry : Registry}

theorem compiled_eq_ok {cs : List Compiled} : registry.compiled settings = .ok cs ↔
    List.Forall₂ (fun d c => (Compilation.ofDecl settings d).result = .ok c) registry cs :=
  Except.mapM_eq_ok

/-- A registry that is not compiled has a first model that is not. -/
theorem compiled_eq_error {e : Fault} (h : registry.compiled settings = .error e) :
    ∃ pre d post, registry = pre ++ d :: post ∧
      (∀ g ∈ pre, ∃ c, (Compilation.ofDecl settings g).result = .ok c) ∧
      (Compilation.ofDecl settings d).result = .error e :=
  Except.mapM_eq_error.mp h

/-- What a registry is compiled to is one list. -/
theorem compiled_unique {cs cs' : List Compiled} (h : registry.compiled settings = .ok cs)
    (h' : List.Forall₂ (fun d c => (Compilation.ofDecl settings d).result = .ok c) registry cs') :
    cs' = cs :=
  Except.ok.inj ((compiled_eq_ok.mpr h').symm.trans h)

/-- A registry is compiled exactly if each of its models is. -/
theorem exists_compiled_iff : (∃ cs, registry.compiled settings = .ok cs) ↔ ∀ d ∈ registry,
    ∃ c, (Compilation.ofDecl settings d).result = .ok c := by
  constructor
  · rintro ⟨cs, hcs⟩ d hd
    obtain ⟨c, -, hc⟩ := forall₂_mem_left (compiled_eq_ok.mp hcs) hd
    exact ⟨c, hc⟩
  · intro h
    obtain ⟨cs, hcs⟩ := exists_forall₂_iff.mpr h
    exact ⟨cs, compiled_eq_ok.mpr hcs⟩

/-- No model of a registry that is compiled is refused. -/
theorem not_refused_of_compiled {cs : List Compiled} {d : ModelDecl} {e : Fault}
    (h : registry.compiled settings = .ok cs) (hd : d ∈ registry) :
    (Compilation.ofDecl settings d).result ≠ .error e := by
  obtain ⟨c, hc⟩ := exists_compiled_iff.mp ⟨cs, h⟩ d hd
  rw [hc]
  exact nofun

/-- Registering a source ends as its declaration says. -/
theorem register_answers (r : Registry) {source : Value} (name : Value) (h : source ≠ .null) :
    (r.register source name).Answers
      ((ModelDecl.ofSource source name).bind fun d => (r.add d).bind .ok) := by
  unfold register
  split
  · exact absurd rfl h
  · exact (Compiler.declare_answers source name).bind fun d => (Answers.ofExcept (r.add d)).bind
      fun r' => (Run.Silent.debug _ _).after (Answers.pure r')

/-- A model that is registered has a name that spells text, if the declared model that is
given has, or the name that is given is text. -/
theorem isNamed_register {r r' : Registry} {source name : Value} {s : Session}
    (hr : ∀ d ∈ r, d.IsNamed)
    (hsource : ∀ m : ModelDecl, source = .model m → m.IsNamed)
    (hname : name = .null ∨ name.asText?.isSome)
    (h : ((r.register source name).run s).1 = .ok r') : ∀ d ∈ r', d.IsNamed := by
  by_cases hnull : source = .null
  · rw [hnull] at h
    obtain rfl := Except.ok.inj h
    exact hr
  · rw [(r.register_answers name hnull).outcome s] at h
    obtain ⟨d, hd, h⟩ := Except.bind_eq_ok.mp h
    obtain ⟨r'', hadd, h⟩ := Except.bind_eq_ok.mp h
    obtain rfl := Except.ok.inj h
    -- the new model is put behind the others, so only its own name is in question
    rw [add] at hadd
    split at hadd
    · cases hadd
    · obtain rfl := Except.ok.inj hadd
      intro g hg
      rcases List.mem_append.mp hg with hg | hg
      · exact hr g hg
      · obtain rfl := List.mem_singleton.mp hg
        exact ModelDecl.isNamed_ofSource hsource hname hd

/-- So are the names of all models of a registry that is made from sources. -/
theorem isNamed_registerAll {r r' : Registry} {sources : List Value} {s : Session}
    (hr : ∀ d ∈ r, d.IsNamed)
    (hsources : ∀ source ∈ sources, ∀ m : ModelDecl, source = .model m → m.IsNamed)
    (h : ((r.registerAll sources).run s).1 = .ok r') : ∀ d ∈ r', d.IsNamed := by
  -- each source is registered in what the sources in front of it left
  induction sources generalizing r s with
  | nil =>
    obtain rfl := Except.ok.inj h
    exact hr
  | cons source rest ih =>
    obtain ⟨hsource, hrest⟩ := List.forall_mem_cons.mp hsources
    rw [registerAll, Run.run_bind] at h
    cases hregister : (r.register source .null).run s with
    | mk registered t =>
      rw [hregister] at h
      cases registered with
      | error e => cases h
      | ok next =>
        have hnext : ∀ d ∈ next, d.IsNamed :=
          isNamed_register hr hsource (.inl rfl) (congrArg Prod.fst hregister)
        exact ih hnext hrest h

end Registry

/-! ## Steps -/

/-- A step that reports on how something ended that was done under a name: it is a success,
or it has failed with the error. -/
inductive Step.Reports (x : Step) (name : String) : Except Fault Unit → Prop
  | success (named : x.name = name) (status : x.status = .success) (error : x.error = none) :
      Reports x name (.ok ())
  | failed {e : Fault} (named : x.name = name) (status : x.status = .failed)
      (error : x.error = some e.message) : Reports x name (.error e)

section Reports

variable {x : Step} {name : String}

theorem Step.Reports.name_eq {r : Except Fault Unit} (h : x.Reports name r) : x.name = name := by
  cases h with
  | success named => exact named
  | failed named => exact named

theorem Step.Reports.status_success (h : x.Reports name (.ok ())) : x.status = .success := by
  cases h with
  | success _ status _ => exact status

theorem Step.Reports.status_failed {e : Fault} (h : x.Reports name (.error e)) :
    x.status = .failed := by
  cases h with
  | failed _ status _ => exact status

theorem Step.Reports.errorText_eq {e : Fault} (h : x.Reports name (.error e)) :
    x.errorText = e.message := by
  cases h with
  | failed _ _ error => rw [Step.errorText, error, Option.getD_some]

end Reports

namespace MigrationDatabase

/-- A statement is sent once if the database is reached, and it fails if it is not. -/
theorem execute_sends (db : MigrationDatabase) (statement : String) :
    (db.execute statement).Does fun _ r es _ =>
      (∃ params, Database.sent es = [(statement, params)]) ∨
        Database.sent es = [] ∧ ∃ e, r = .error e := by
  cases db with
  -- a database that is brought is connected already, so the statement always reaches it
  | brought =>
    exact ((Database.execute_sendsOnce statement .left).bind fun _ => Run.Quiet.pure ()).mono
      fun _ _ _ _ hes => .inl ⟨_, hes⟩
  | connector name =>
    have hsend := (Database.execute_sendsOnce statement .absent).bind fun _ => Run.Quiet.pure ()
    refine (name.withConnection_sends (Database.withCursor_sendsOnce
      (hsend.bind fun a => Database.quiet_commit.bind fun _ => Run.Quiet.pure a))).mono ?_
    rintro s r es t (hes | ⟨hes, he, -⟩)
    · exact .inl ⟨_, hes⟩
    · exact .inr ⟨hes, he⟩

/-- Testing a connection sends nothing but the statement for it, and that once at most. -/
theorem test_sends (db : MigrationDatabase) :
    db.test.Does fun _ _ es _ => (Database.sent es).map Prod.fst <+: [testStatement] := by
  cases db with
  | brought =>
    refine Run.Does.mono (Run.Quiet.bind (Run.Quiet.ask rfl) fun _ =>
      Run.Quiet.get.bind fun s => (Database.failWith_answers s.script.connectError).quiet) ?_
    intro s r es t hes
    rw [hes]
    exact List.nil_prefix
  | connector name =>
    have hfetch : Run.SendsOnce (do
        let o ← Database.execute testStatement .absent
        Run.ask .fetchRow
        return o.row) (testStatement, .absent) :=
      (Database.execute_sendsOnce testStatement .absent).bind fun o =>
        (Run.Quiet.ask rfl).bind fun _ => Run.Quiet.pure o.row
    have hsend := name.withConnection_sends (Database.withCursor_sendsOnce
      (hfetch.bind fun a => Database.quiet_commit.bind fun _ => Run.Quiet.pure a))
    -- a connection that is not made sends no statement, which is a prefix as well
    have hone : ∀ es, Database.sent es = [(testStatement, .absent)] ∨ Database.sent es = [] →
        (Database.sent es).map Prod.fst <+: [testStatement] := by
      rintro es (hes | hes) <;> simp [hes]
    refine (Run.Does.bind hsend fun _ => Run.Does.pure ()).mono ?_
    rintro s r es t (⟨e, -, hes | ⟨hes, -⟩⟩ | ⟨a, u, es₁, es₂, rfl, hes, -, rfl, -⟩)
    · exact hone es (.inl hes)
    · exact hone es (.inr hes)
    · rw [List.append_nil]
      exact hone es₁ (hes.imp id fun hes => hes.1)

theorem execute_calls (db : MigrationDatabase) (statement : String) :
    (db.execute statement).Does (db.execute statement).Calls :=
  (db.execute_sends statement).calls

theorem test_calls (db : MigrationDatabase) : db.test.Does db.test.Calls := db.test_sends.calls

/-- Statements that a database is given one after the other, with how each of them ends;
between them nothing is done but to log. -/
inductive Executes (db : MigrationDatabase) :
    List String → List (Except Fault Unit) → Session → List Database.Event → Session → Prop
  | nil {s t : Session} (world : t.world = s.world) : Executes db [] [] s [] t
  | cons {st : String} {r : Except Fault Unit} {sts : List String} {rs : List (Except Fault Unit)}
      {s t u : Session} {es es' : List Database.Event} (call : (db.execute st).Calls s r es t)
      (rest : Executes db sts rs t es' u) : Executes db (st :: sts) (r :: rs) s (es ++ es') u

/-- How tables are created: all of them, and every step is a success; or up to the first
that fails, and the steps after it are skipped. -/
inductive Creates (db : MigrationDatabase) (cs : List Compiled) (steps : List Step)
    (executed : List String) (s : Session) (es : List Database.Event) (t : Session) : Prop
  | all (statements : executed = cs.map Compiled.table)
      (run : db.Executes executed (cs.map fun _ => .ok ()) s es t)
      (reports : List.Forall₂
        (fun c x => x.Reports (Migration.tableStepName c.model) (.ok ())) cs steps)
  | stopped {pre post : List Compiled} {c : Compiled} {e : Fault} {xs : List Step} {x : Step}
      (split : cs = pre ++ c :: post) (statements : executed = pre.map Compiled.table ++ [c.table])
      (run : db.Executes executed (pre.map (fun _ => .ok ()) ++ [.error e]) s es t)
      (steps_eq : steps = xs ++ x :: post.map Migration.skippedStep)
      (reports : List.Forall₂
        (fun c x => x.Reports (Migration.tableStepName c.model) (.ok ())) pre xs)
      (failed : x.Reports (Migration.tableStepName c.model) (.error e))

section Creates

variable {db : MigrationDatabase} {c : Compiled} {cs : List Compiled} {x : Step}
  {xs : List Step} {executed : List String} {s t u : Session} {es es' : List Database.Event}

/-- A table that fails is the last that is created. -/
theorem creates_stop {e : Fault} (call : (db.execute c.table).Calls s (.error e) es t)
    (report : x.Reports (Migration.tableStepName c.model) (.error e)) :
    db.Creates (c :: cs) (x :: cs.map Migration.skippedStep) [c.table] s es t := by
  have hrun : db.Executes [c.table] [.error e] s (es ++ []) t := .cons call (.nil rfl)
  rw [List.append_nil] at hrun
  have hsplit : c :: cs = [] ++ c :: cs := rfl
  exact .stopped hsplit rfl hrun rfl .nil report

/-- A table that is created comes in front of those that are created after it. -/
theorem creates_next (call : (db.execute c.table).Calls s (.ok ()) es t)
    (report : x.Reports (Migration.tableStepName c.model) (.ok ()))
    (rest : db.Creates cs xs executed t es' u) :
    db.Creates (c :: cs) (x :: xs) (c.table :: executed) s (es ++ es') u := by
  cases rest with
  | all statements run reports =>
    exact .all (by rw [statements]; rfl) (.cons call run) (.cons report reports)
  | @stopped pre post c' e ys y split statements run steps_eq reports failed =>
    have hsplit : c :: cs = (c :: pre) ++ c' :: post := by rw [split]; rfl
    have hsteps : x :: xs = (x :: ys) ++ y :: post.map Migration.skippedStep := by
      rw [steps_eq]; rfl
    exact .stopped hsplit (by rw [statements]; rfl) (.cons call run) hsteps
      (.cons report reports) failed

theorem Executes.congr {rs : List (Except Fault Unit)} (h : db.Executes executed rs s es t)
    (hu : u.world = t.world) : db.Executes executed rs s es u := by
  induction h with
  | nil world => exact .nil (hu.trans world)
  | cons call rest ih => exact .cons call (ih hu)

theorem Creates.congr (h : db.Creates cs xs executed s es t) (hu : u.world = t.world) :
    db.Creates cs xs executed s es u := by
  cases h with
  | all statements run reports => exact .all statements (run.congr hu) reports
  | stopped split statements run steps_eq reports failed =>
    exact .stopped split statements (run.congr hu) steps_eq reports failed

end Creates

/-! ### What is sent to a database that a caller brings -/

theorem sent_test {r : Except Fault Unit} {s t : Session} {es : List Database.Event}
    (h : brought.test.Calls s r es t) : Database.sent es = [] := by
  have htest : brought.test.Quiet := Run.Quiet.bind (Run.Quiet.ask rfl) fun _ =>
    Run.Quiet.get.bind fun s => (Database.failWith_answers s.script.connectError).quiet
  obtain ⟨_, _, _, _, hsent⟩ := Run.Does.of_calls htest h
  exact hsent

theorem sent_executes {sts : List String} {rs : List (Except Fault Unit)} {s t : Session}
    {es : List Database.Event} (h : brought.Executes sts rs s es t) :
    Database.sent es = sts.map fun st => (st, .left) := by
  induction h with
  | nil => rfl
  | @cons st r sts rs s t u es es' call _ ih =>
    have hexecute : (brought.execute st).SendsOnce (st, .left) :=
      (Database.execute_sendsOnce st .left).bind fun _ => Run.Quiet.pure ()
    obtain ⟨_, _, _, _, hsent⟩ := Run.Does.of_calls hexecute call
    rw [Database.sent_append, hsent, ih]
    rfl

end MigrationDatabase

namespace Migration

open Run (Answers Silent)

/-- Behind a step that reports on a call, a run goes on in one way if the call failed and in
another if it succeeded, for the status of the step tells the two apart. -/
theorem does_branch {α : Type} {m : Run Step} {name : String}
    {call : Session → Except Fault Unit → List Database.Event → Session → Prop}
    {stop next : Step → Run α}
    {P Q : Step → Session → Except Fault α → List Database.Event → Session → Prop}
    (hm : m.Does fun s r es t => ∃ x, r = .ok x ∧ ∃ r', x.Reports name r' ∧ call s r' es t)
    (hstop : ∀ x, (stop x).Does (P x)) (hnext : ∀ x, (next x).Does (Q x)) :
    (m >>= fun x => if x.status = .failed then stop x else next x).Does fun s r es t =>
      ∃ x u es₁ es₂, es = es₁ ++ es₂ ∧
        ((∃ e, x.Reports name (.error e) ∧ call s (.error e) es₁ u ∧ P x u r es₂ t) ∨
          x.Reports name (.ok ()) ∧ call s (.ok ()) es₁ u ∧ Q x u r es₂ t) := by
  have hrest : ∀ x : Step, (if x.status = .failed then stop x else next x).Does fun s r es t =>
      x.status = .failed ∧ P x s r es t ∨ x.status ≠ .failed ∧ Q x s r es t := by
    intro x
    by_cases hx : x.status = .failed
    · rw [if_pos hx]
      exact (hstop x).mono fun _ _ _ _ h => .inl ⟨hx, h⟩
    · rw [if_neg hx]
      exact (hnext x).mono fun _ _ _ _ h => .inr ⟨hx, h⟩
  refine (Run.Does.bind_ok hm hrest).mono ?_
  rintro s r es t ⟨x, u, es₁, es₂, rfl, ⟨r', hreport, hcall⟩, hgoes⟩
  refine ⟨x, u, es₁, es₂, rfl, ?_⟩
  -- the status says which branch was taken, and the report says which status the call leaves
  cases r' with
  | error e =>
    obtain ⟨-, hP⟩ | ⟨hno, -⟩ := hgoes
    · exact .inl ⟨e, hreport, hcall, hP⟩
    · exact absurd hreport.status_failed hno
  | ok a =>
    obtain ⟨hno, -⟩ | ⟨-, hQ⟩ := hgoes
    · rw [hreport.status_success] at hno
      cases hno
    · exact .inr ⟨hreport, hcall, hQ⟩

theorem testStep_reports (db : MigrationDatabase) :
    (testStep db).Does fun s r es t => ∃ x, r = .ok x ∧ ∃ r', x.Reports "test_connection" r' ∧
      db.test.Calls s r' es t := by
  refine (Run.Does.after (Silent.info _ _) (Run.Does.report
    (R := fun r x => x.Reports "test_connection" r) db.test_calls ?_)).mono ?_
  · intro r
    cases r with
    | ok a =>
      refine ⟨_, Answers.after (Answers.pure _) ((Silent.info _ _).after (Answers.pure _)), ?_⟩
      exact .success rfl rfl rfl
    | error e =>
      refine ⟨_, (Silent.error _ _).after (Answers.after (Answers.pure _)
        ((Silent.info _ _).after (Answers.pure _))), ?_⟩
      exact .failed rfl rfl rfl
  · rintro s r es t ⟨s', hs, x, hr, r', hreport, hcall⟩
    exact ⟨x, hr, r', hreport, hcall.congr hs rfl⟩

theorem tableStep_reports (db : MigrationDatabase) (c : Compiled) :
    (tableStep db c).Does fun s r es t => ∃ x, r = .ok x ∧ ∃ r',
      x.Reports (tableStepName c.model) r' ∧ (db.execute c.table).Calls s r' es t := by
  refine (Run.Does.after (Silent.info _ _) (Run.Does.report
    (R := fun r x => x.Reports (tableStepName c.model) r) (db.execute_calls c.table) ?_)).mono ?_
  · intro r
    cases r with
    | ok a =>
      refine ⟨_, Answers.after (Answers.pure _) ((Silent.info _ _).after (Answers.pure _)), ?_⟩
      exact .success rfl rfl rfl
    | error e =>
      refine ⟨_, (Silent.error _ _).after ((Silent.debug _ _).after
        (Answers.after (Answers.pure _) ((Silent.info _ _).after (Answers.pure _)))), ?_⟩
      exact .failed rfl rfl rfl
  · rintro s r es t ⟨s', hs, x, hr, r', hreport, hcall⟩
    exact ⟨x, hr, r', hreport, hcall.congr hs rfl⟩

/-- Creating tables ends with a step for each of them. The induction is on the tables that
are still to come; the step of the first one says whether they are looked at. -/
theorem tableSteps_creates (db : MigrationDatabase) (cs : List Compiled) :
    (tableSteps db cs).Does fun s r es t => ∃ steps, r = .ok steps ∧ ∃ executed,
      db.Creates cs steps executed s es t := by
  induction cs with
  | nil =>
    refine (Run.Does.pure []).mono ?_
    rintro s r es t ⟨rfl, rfl, rfl⟩
    exact ⟨[], rfl, [], .all rfl (.nil rfl) .nil⟩
  | cons c cs ih =>
    have hstep : ∀ change, (Run.within change (tableStep db c)).Does fun s r es t =>
        ∃ x, r = .ok x ∧ ∃ r', x.Reports (tableStepName c.model) r' ∧
          (db.execute c.table).Calls s r' es t := by
      intro change
      refine (Run.Does.within change (tableStep_reports db c)).mono ?_
      rintro s r es t ⟨s', t', hs, ht, x, hx, r', hreport, hcall⟩
      exact ⟨x, hx, r', hreport, hcall.congr hs ht.symm⟩
    -- once a table has failed, the tables behind it are skipped without a look at them
    refine (does_branch (hstep _) (fun x => Run.Does.pure (x :: cs.map skippedStep)) fun x =>
      Run.Does.bind_ok ih fun steps => Run.Does.pure (x :: steps)).mono ?_
    rintro s r es t ⟨x, u, es₁, es₂, rfl, ⟨e, hreport, hcall, rfl, rfl, rfl⟩ |
      ⟨hreport, hcall, xs, v, es₃, es₄, rfl, ⟨executed, hcreates⟩, rfl, rfl, rfl⟩⟩
    · rw [List.append_nil]
      exact ⟨_, rfl, _, MigrationDatabase.creates_stop hcall hreport⟩
    · rw [List.append_nil]
      exact ⟨_, rfl, _, MigrationDatabase.creates_next hcall hreport hcreates⟩

/-! ## Counting steps -/

theorem has_eq_true {status : StepStatus} {x : Step} :
    x.has status = true ↔ x.status = status := by
  rw [Step.has, decide_eq_true_eq]

/-- Of the steps that create tables, each that failed has an error. -/
theorem length_tableErrors {cs : List Compiled} {steps : List Step}
    (h : steps.length = cs.length) :
    (tableErrors cs steps).length = (steps.filter (Step.has .failed)).length := by
  -- the steps are as many as the models, so both lists are taken apart together
  induction cs generalizing steps with
  | nil =>
    rw [List.length_eq_zero_iff.mp h]
    rfl
  | cons c cs ih =>
    cases steps with
    | nil => cases h
    | cons x xs =>
      rw [tableErrors, List.length_append, ih (Nat.succ.inj h), List.filter_cons]
      by_cases hx : x.status = .failed
      · rw [if_pos hx, if_pos (has_eq_true.mpr hx)]
        rw [List.length_singleton, List.length_cons]
        omega
      · rw [if_neg hx, if_neg (mt has_eq_true.mp hx)]
        rw [List.length_nil]
        omega

section Creates

variable {db : MigrationDatabase} {cs : List Compiled} {steps : List Step}
  {executed : List String} {s t : Session} {es : List Database.Event}

theorem length_creates (h : db.Creates cs steps executed s es t) :
    steps.length = cs.length := by
  cases h with
  | all _ _ reports => exact reports.length_eq.symm
  | stopped split _ _ steps_eq reports _ =>
    rw [split, steps_eq]
    simp [reports.length_eq]

/-- Steps that report on what ended well are successes. -/
theorem status_of_reports {xs : List Step}
    (h : List.Forall₂ (fun c x => x.Reports (tableStepName c.model) (.ok ())) cs xs) :
    ∀ x ∈ xs, x.status = .success := by
  intro x hx
  obtain ⟨c, -, hreport⟩ := forall₂_mem_right h hx
  exact hreport.status_success

theorem filter_failed_eq_nil {xs : List Step} (h : ∀ x ∈ xs, x.status ≠ .failed) :
    xs.filter (Step.has .failed) = [] := by
  rw [List.filter_eq_nil_iff]
  intro x hx hfailed
  exact h x hx (has_eq_true.mp hfailed)

/-- One step that creates a table has failed at most, and none has exactly if every step
is a success. -/
theorem failed_creates (h : db.Creates cs steps executed s es t) :
    (steps.filter (Step.has .failed)).length ≤ 1 ∧
      ((!steps.any (Step.has .failed)) = true ↔ ∀ x ∈ steps, x.status = .success) := by
  cases h with
  | all _ _ reports =>
    have hall := status_of_reports reports
    have hnone : ∀ x ∈ steps, x.status ≠ .failed := by
      intro x hx
      rw [hall x hx]
      decide
    refine ⟨by simp [filter_failed_eq_nil hnone], iff_of_true ?_ hall⟩
    simpa [Step.has] using hnone
  | @stopped pre post c e xs x _ _ _ steps_eq reports failed =>
    -- the steps in front of the failure are successes, and those behind it are skipped
    have hfailed : x.status = .failed := failed.status_failed
    have hbefore : ∀ y ∈ xs, y.status ≠ .failed := by
      intro y hy
      rw [status_of_reports reports y hy]
      decide
    have hafter : ∀ y ∈ post.map skippedStep, y.status ≠ .failed := by
      intro y hy hstatus
      obtain ⟨c, -, rfl⟩ := List.mem_map.mp hy
      cases hstatus
    have hmem : x ∈ steps := by
      rw [steps_eq]
      exact List.mem_append_right _ List.mem_cons_self
    constructor
    · rw [steps_eq, List.filter_append, List.filter_cons, filter_failed_eq_nil hbefore,
        filter_failed_eq_nil hafter, if_pos (has_eq_true.mpr hfailed)]
      exact Nat.le_refl 1
    · refine iff_of_false ?_ ?_
      · intro hno
        rw [List.any_eq_true.mpr ⟨x, hmem, has_eq_true.mpr hfailed⟩] at hno
        cases hno
      · intro hall
        rw [hall x hmem] at hfailed
        cases hfailed

end Creates

/-! ## The whole migration -/

theorem compileStep_compiled {settings : CompilerSettings} {registry : Registry}
    {cs : List Compiled} (h : registry.compiled settings = .ok cs) :
    ∃ x, (compileStep settings registry).Answers (.ok (x, cs)) ∧
      x.Reports "compile_models" (.ok ()) := by
  have hcompile := (registry.compileAll_answers settings).attempt
  rw [h] at hcompile
  refine ⟨_, (Silent.info _ _).after (Answers.after hcompile
    ((Silent.info _ _).after (Answers.pure _))), ?_⟩
  exact .success rfl rfl rfl

theorem compileStep_refused {settings : CompilerSettings} {registry : Registry}
    {e : DeclError} (h : registry.compiled settings = .error (.declaration e)) :
    ∃ x, (compileStep settings registry).Answers (.ok (x, [])) ∧
      x.Reports "compile_models" (.error (.declaration e)) := by
  have hcompile := (registry.compileAll_answers settings).attempt
  rw [h] at hcompile
  refine ⟨_, (Silent.info _ _).after (Answers.after hcompile ((Silent.error _ _).after
    ((Silent.info _ _).after (Answers.pure _)))), ?_⟩
  exact .failed rfl rfl rfl

/-- A fault other than the refusal of a declaration ends the migration. -/
theorem compileStep_raises {settings : CompilerSettings} {registry : Registry} {e : Fault}
    (h : registry.compiled settings = .error e) (he : ∀ d, e ≠ .declaration d) :
    (compileStep settings registry).Answers (.error e) := by
  have hcompile := (registry.compileAll_answers settings).attempt
  rw [h] at hcompile
  refine (Silent.info _ _).after (Answers.after hcompile ?_)
  cases e with
  | declaration d => exact absurd rfl (he d)
  | _ => exact Answers.throw _

/-- A registry that is refused ends a migration with the step that compiles, in a dry run or
not. -/
theorem perform_refused {settings : CompilerSettings} {registry : Registry} {x : Step}
    (hx : (compileStep settings registry).Answers (.ok (x, []))) (hstatus : x.status = .failed)
    (db : MigrationDatabase) (isDryRun : Bool) (blank : Migration) :
    (perform settings registry db isDryRun blank).Answers (.ok { blank with
      steps := [x], errors := ["Compilation failed: " ++ x.errorText] }) := by
  refine hx.after ?_
  simp only [hstatus, if_true]
  exact Answers.pure _

/-- Another fault ends it without a result. -/
theorem perform_raises {settings : CompilerSettings} {registry : Registry} {e : Fault}
    (h : (compileStep settings registry).Answers (.error e)) (db : MigrationDatabase)
    (isDryRun : Bool) (blank : Migration) :
    (perform settings registry db isDryRun blank).Answers (.error e) := by
  intro s
  obtain ⟨es, hes, -, rfl, hworld⟩ := h s
  have hrun : (perform settings registry db isDryRun blank).run s =
      (.error e, ((compileStep settings registry).run s).2) := by
    rw [perform, Run.run_bind, ← Prod.eta ((compileStep settings registry).run s), h.outcome s]
  rw [hrun]
  exact ⟨[], hes, rfl, rfl, hworld⟩

theorem silent_milestone (name : String) (data : Value) (w : String) :
    Silent (Run.milestone name data w) := by
  intro s
  have hcontext : Run.context.run s = (.ok (Log.innermost s.contexts), s) := rfl
  rw [Run.milestone, Run.run_bind, hcontext]
  exact Silent.logWith _ _ _ _ _ s

theorem silent_tellStart (registry : Registry) (isDryRun : Bool) :
    Silent (tellStart registry isDryRun) :=
  (Silent.info _ _).after ((Silent.info _ _).after ((Silent.info _ _).after
    ((Silent.info _ _).after (Silent.info _ _))))

theorem silent_tellEnd (m : Migration) : Silent (tellEnd m) := by
  have hrest : Silent (do
      writer.info rule
      let data := [("success", .bool m.success), ("dry_run", .bool m.isDryRun),
        ("models", .int m.models.length)] ++ m.summary
      Run.milestone "migration_complete" (.dict (Dict.ofStrings data)) Run.milestoneWriter) :=
    (Silent.info _ _).after (silent_milestone _ _ _)
  refine (Silent.info _ _).after ((Silent.info _ _).after ((Silent.info _ _).after ?_))
  by_cases herrors : (!m.errors.isEmpty) = true
  · rw [if_pos herrors]
    exact (Silent.warning _ _).after hrest
  · rw [if_neg herrors]
    exact hrest

/-- What a migration does, and the result that it ends with. A model that is not compiled
ends it before the database is asked for anything. Otherwise all statements are listed, and
the connection is tested; if that fails, nothing is executed. Otherwise tables are
created. -/
inductive Follows (settings : CompilerSettings) (registry : Registry) (db : MigrationDatabase)
    (m : Migration) : List String → Session → List Database.Event → Session → Prop
  | uncompiled {pre post : Registry} {d : ModelDecl} {e : DeclError} {x : Step} {s t : Session}
      (split : registry = pre ++ d :: post)
      (before : ∀ g ∈ pre, ∃ c, (Compilation.ofDecl settings g).result = .ok c)
      (refused : (Compilation.ofDecl settings d).result = .error (.declaration e))
      (steps : m.steps = [x]) (report : x.Reports "compile_models" (.error (.declaration e)))
      (statements : m.statements = []) (errors : m.errors = ["Compilation failed: " ++ e.message])
      (success : m.success = false) : Follows settings registry db m [] s [] t
  | unconnected {cs : List Compiled} {e : Fault} {x y : Step} {s t : Session}
      {es : List Database.Event}
      (compiled : List.Forall₂ (fun d c => (Compilation.ofDecl settings d).result = .ok c)
        registry cs)
      (test : db.test.Calls s (.error e) es t) (steps : m.steps = [x, y])
      (compiles : x.Reports "compile_models" (.ok ()))
      (report : y.Reports "test_connection" (.error e))
      (statements : m.statements = cs.map Compiled.table)
      (errors : m.errors = ["Connection failed: " ++ e.message])
      (success : m.success = false) : Follows settings registry db m [] s es t
  | connected {cs : List Compiled} {x y : Step} {tables : List Step} {executed : List String}
      {s t u : Session} {es es' : List Database.Event}
      (compiled : List.Forall₂ (fun d c => (Compilation.ofDecl settings d).result = .ok c)
        registry cs)
      (test : db.test.Calls s (.ok ()) es t) (creates : db.Creates cs tables executed t es' u)
      (steps : m.steps = [x, y] ++ tables) (compiles : x.Reports "compile_models" (.ok ()))
      (report : y.Reports "test_connection" (.ok ()))
      (statements : m.statements = cs.map Compiled.table)
      (errors : m.errors = tableErrors cs tables)
      (success : m.success = !tables.any (Step.has .failed)) :
      Follows settings registry db m executed s (es ++ es') u

theorem Follows.congr {settings : CompilerSettings} {registry : Registry}
    {db : MigrationDatabase} {m : Migration} {executed : List String} {s s₀ t t₀ : Session}
    {es : List Database.Event} (h : m.Follows settings registry db executed s es t)
    (hs : s.world = s₀.world) (ht : t₀.world = t.world) :
    m.Follows settings registry db executed s₀ es t₀ := by
  cases h with
  | uncompiled split before refused steps report statements errors success =>
    exact .uncompiled split before refused steps report statements errors success
  | unconnected compiled test steps compiles report statements errors success =>
    exact .unconnected compiled (test.congr hs ht) steps compiles report statements errors success
  | connected compiled test creates steps compiles report statements errors success =>
    exact .connected compiled (test.congr hs rfl) (creates.congr ht) steps compiles report
      statements errors success

/-- What is performed once the models are compiled. -/
theorem perform_compiled {settings : CompilerSettings} {registry : Registry}
    {cs : List Compiled} {x : Step} (hcompiled : registry.compiled settings = .ok cs)
    (hx : (compileStep settings registry).Answers (.ok (x, cs)))
    (hcompiles : x.Reports "compile_models" (.ok ())) (db : MigrationDatabase)
    (moment : Moment) :
    (perform settings registry db false ⟨moment, false, false, registry.names, [], [], []⟩).Does
      fun s r es t => ∃ m, r = .ok m ∧ ∃ executed, m.models = registry.names ∧
        m.Follows settings registry db executed s es t := by
  have hcs := Registry.compiled_eq_ok.mp hcompiled
  have hstatus : x.status = .success := hcompiles.status_success
  refine (Run.Does.after hx (P := fun s r es t => ∃ m, r = .ok m ∧ ∃ executed,
    m.models = registry.names ∧ m.Follows settings registry db executed s es t) ?_).mono ?_
  · simp only [hstatus, reduceCtorEq, if_false]
    refine (does_branch (testStep_reports db) (fun y => Run.Does.pure _) fun y =>
      Run.Does.bind_ok (tableSteps_creates db cs) fun _ => Run.Does.pure _).mono ?_
    rintro s r es t ⟨y, u, es₁, es₂, rfl, ⟨e, hreport, htest, rfl, rfl, rfl⟩ |
      ⟨hreport, htest, tables, v, es₃, es₄, rfl, ⟨executed, hcreates⟩, rfl, rfl, rfl⟩⟩
    -- the error of the result is the text that the report of the test gives
    · rw [List.append_nil, hreport.errorText_eq]
      exact ⟨_, rfl, [], rfl,
        .unconnected hcs htest rfl hcompiles hreport rfl rfl rfl⟩
    · rw [List.append_nil]
      exact ⟨_, rfl, executed, rfl,
        .connected hcs htest hcreates rfl hcompiles hreport rfl rfl rfl⟩
  · rintro s r es t ⟨s', hs, m, rfl, executed, hmodels, hfollows⟩
    exact ⟨m, rfl, executed, hmodels, hfollows.congr hs rfl⟩

theorem perform_follows (settings : CompilerSettings) (registry : Registry)
    (db : MigrationDatabase) (hnamed : ∀ d ∈ registry, d.IsNamed) (moment : Moment) :
    (perform settings registry db false ⟨moment, false, false, registry.names, [], [], []⟩).Does
      fun s r es t => ∃ m, r = .ok m ∧ ∃ executed, m.models = registry.names ∧
        m.Follows settings registry db executed s es t := by
  cases hcompiled : registry.compiled settings with
  | error e =>
    obtain ⟨pre, d, post, hsplit, hbefore, hrefused⟩ := Registry.compiled_eq_error hcompiled
    obtain ⟨n, hn⟩ := hnamed d (by simp [hsplit])
    -- a model whose name spells text is refused as a declaration, so the fault is a result
    obtain ⟨c, field, rfl⟩ := Compilation.ofDecl_error hn hrefused
    obtain ⟨x, hx, hreport⟩ := compileStep_refused hcompiled
    refine Run.Does.mono (perform_refused hx hreport.status_failed db false _) ?_
    rintro s r es t ⟨rfl, rfl, -⟩
    rw [hreport.errorText_eq]
    exact ⟨_, rfl, [], rfl, .uncompiled hsplit hbefore hrefused rfl hreport rfl rfl rfl⟩
  | ok cs =>
    obtain ⟨x, hx, hcompiles⟩ := compileStep_compiled hcompiled
    exact perform_compiled hcompiled hx hcompiles db moment

/-- The protocol that a migration keeps. Its models are those of the registry, and its steps
follow one another; what a database that a caller brings is sent is what is executed. The
migration is a success exactly if each of its steps is, and each step that failed, of which
there is one at most, has an error. -/
structure Keeps (settings : CompilerSettings) (registry : Registry) (db : MigrationDatabase)
    (m : Migration) (s : Session) (es : List Database.Event) (t : Session) : Prop where
  models : m.models = registry.names
  follows : ∃ executed, m.Follows settings registry db executed s es t ∧
    (db = .brought → Database.sent es = executed.map fun st => (st, .left))
  success : m.success = true ↔ ∀ x ∈ m.steps, x.status = .success
  errors : m.errors.length = m.count .failed
  failed : m.count .failed ≤ 1

section Keeps

variable {settings : CompilerSettings} {registry : Registry} {db : MigrationDatabase}
  {m : Migration} {executed : List String} {s t : Session} {es : List Database.Event}

theorem Follows.sent (h : m.Follows settings registry .brought executed s es t) :
    Database.sent es = executed.map fun st => (st, .left) := by
  cases h with
  | uncompiled => rfl
  | unconnected _ test => exact MigrationDatabase.sent_test test
  | connected _ test creates =>
    rw [Database.sent_append, MigrationDatabase.sent_test test, List.nil_append]
    cases creates with
    | all _ run _ => exact MigrationDatabase.sent_executes run
    | stopped _ _ run => exact MigrationDatabase.sent_executes run

theorem Follows.count (h : m.Follows settings registry db executed s es t) :
    (m.success = true ↔ ∀ x ∈ m.steps, x.status = .success) ∧
      m.errors.length = m.count .failed ∧ m.count .failed ≤ 1 := by
  rw [Migration.count]
  cases h with
  | uncompiled _ _ _ steps report _ errors success =>
    simp [steps, errors, success, Step.has, report.status_failed]
  | unconnected _ _ steps compiles report _ errors success =>
    simp [steps, errors, success, Step.has, compiles.status_success, report.status_failed]
  | @connected _ _ _ tables _ _ _ _ _ _ _ _ creates steps compiles report _ errors success =>
    obtain ⟨hone, hall⟩ := failed_creates creates
    -- the steps in front of the tables are successes, so only the tables count
    have hcount : m.steps.filter (Step.has .failed) = tables.filter (Step.has .failed) := by
      rw [steps, List.filter_append]
      simp [Step.has, compiles.status_success, report.status_success]
    rw [hcount, success, errors, length_tableErrors (length_creates creates), hall, steps]
    refine ⟨?_, rfl, hone⟩
    simp [compiles.status_success, report.status_success]

end Keeps

/-- **The protocol of a migration.** Whatever the database does, a migration of models whose
names spell text ends with a result, and keeps the protocol. -/
theorem run_keeps (settings : CompilerSettings) (registry : Registry) (db : MigrationDatabase)
    (hnamed : ∀ d ∈ registry, d.IsNamed) :
    (run settings registry db false).Does fun s r es t =>
      ∃ m, r = .ok m ∧ m.Keeps settings registry db s es t := by
  have hdone : ∀ moment, (do
      tellStart registry false
      let m ← perform settings registry db false
        ⟨moment, false, false, registry.names, [], [], []⟩
      tellEnd m
      return m : Run Migration).Does fun s r es t =>
        ∃ m executed, r = .ok m ∧ m.models = registry.names ∧
          m.Follows settings registry db executed s es t := by
    intro moment
    have htold : ∀ m, (do tellEnd m; return m : Run Migration).Answers (.ok m) :=
      fun m => (silent_tellEnd m).after (Answers.pure m)
    refine (Run.Does.after (silent_tellStart registry false) (Run.Does.bind_ok
      (perform_follows settings registry db hnamed moment) htold)).mono ?_
    rintro s r es t ⟨s', hs, m, u, es₁, es₂, rfl, ⟨executed, hmodels, hfollows⟩, hr, rfl, ht⟩
    rw [List.append_nil]
    exact ⟨m, executed, hr, hmodels, hfollows.congr hs ht⟩
  refine (Run.Does.get_bind fun s => hdone s.now).mono ?_
  rintro s r es t ⟨m, executed, hr, hmodels, hfollows⟩
  obtain ⟨hsuccess, herrors, hfailed⟩ := hfollows.count
  refine ⟨m, hr, hmodels, ⟨executed, hfollows, ?_⟩, hsuccess, herrors, hfailed⟩
  rintro rfl
  exact hfollows.sent

/-- A registry of three models. -/
def visitsRegistry : Registry :=
  [visitsDecl, ⟨.str "owners", [keyDecl]⟩, ⟨.str "rooms", [keyDecl]⟩]

theorem run_keeps_visits : (∀ d ∈ visitsRegistry, d.IsNamed) ∧
    (run .default visitsRegistry .brought false).Does fun s r es t =>
      ∃ m, r = .ok m ∧ m.Keeps .default visitsRegistry .brought s es t := by
  have hnamed : ∀ d ∈ visitsRegistry, d.IsNamed := by
    intro d hd
    simp only [visitsRegistry, List.mem_cons, List.not_mem_nil, or_false] at hd
    rcases hd with rfl | rfl | rfl
    · exact ⟨"visits", rfl⟩
    · exact ⟨"owners", rfl⟩
    · exact ⟨"rooms", rfl⟩
  exact ⟨hnamed, run_keeps .default visitsRegistry .brought hnamed⟩

end Migration

end Relvar
