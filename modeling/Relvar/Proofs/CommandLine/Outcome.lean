/-
How a deployment ends. A module is written last and only if there is nothing to refuse: what is
refused leaves no file. A migration always ends with a result that can be reported, as text or as
an object, and what is returned is zero exactly if it is a success.
-/
import Relvar.Proofs.CommandLine.Preparation
import Relvar.Proofs.CommandLine.Report
import Relvar.Proofs.CommandLine.Sparing
import Relvar.Proofs.Generated.Module

set_option autoImplicit false

namespace Relvar

open Database (Event Target)
open Generated (constantPrefix module?)

/-! ## Files -/

namespace Happening

/-- Nothing is written among what happened. -/
def Unwritten (hs : List Happening) : Prop := ∀ x ∈ hs, ∀ path text, x ≠ .wrote path text

theorem unwritten_of_logged {hs : List Happening} (h : ∀ x ∈ hs, x.IsLogged) : Unwritten hs := by
  intro x hx path text
  obtain ⟨r, rfl⟩ := h x hx
  exact nofun

theorem Unwritten.append {hs ks : List Happening} (hhs : Unwritten hs) (hks : Unwritten ks) :
    Unwritten (hs ++ ks) :=
  fun x hx => (List.mem_append.mp hx).elim (hhs x) (hks x)

theorem unwritten_printed (text : String) : Unwritten [.printed text] := by
  simp [Unwritten]

theorem unwritten_complained (text : String) : Unwritten [.complained text] := by
  simp [Unwritten]

/-- What writes nothing, in front of what happened, leaves the files as they are. -/
theorem files_append_of_unwritten {hs : List Happening} (h : Unwritten hs)
    (ks : List Happening) : files (hs ++ ks) = files ks := by
  induction hs with
  | nil => rfl
  | cons x hs ih =>
    obtain ⟨hx, hrest⟩ := List.forall_mem_cons.mp h
    cases x with
    | wrote path text => exact absurd rfl (hx path text)
    | _ => exact ih hrest

theorem files_of_unwritten {hs : List Happening} (h : Unwritten hs) : files hs = [] := by
  have hall := files_append_of_unwritten h []
  rwa [List.append_nil] at hall

/-- A file that is written, with nothing written in front or behind, is the one file. -/
theorem files_wrote {hs ks : List Happening} (hhs : Unwritten hs) (hks : Unwritten ks)
    (path text : String) : files (hs ++ .wrote path text :: ks) = [(path, text)] := by
  rw [files_append_of_unwritten hhs, files, files_of_unwritten hks]
  rfl

end Happening

open Happening (IsLogged isLogged_logged)

namespace CommandLine

variable {settings : CompilerSettings} {registry : Registry} {path : String}
  {cs : List Compiled} {s : Session} {result : Except Fault Ending} {hs : List Happening}

/-! ## Codes -/

/-- A program that returns zero exactly if something is so, and one otherwise. -/
structure Exits (result : Except Fault Ending) (p : Prop) : Prop where
  zero : result = .ok (.returned 0) ↔ p
  one : result = .ok (.returned 1) ↔ ¬ p

theorem exits_zero {p : Prop} (h : p) : Exits (.ok (.returned 0)) p :=
  ⟨iff_of_true rfl h, iff_of_false nofun fun hn => hn h⟩

theorem exits_one {p : Prop} (h : ¬ p) : Exits (.ok (.returned 1)) p :=
  ⟨iff_of_false nofun h, iff_of_true rfl h⟩

theorem exits_migrationCode {m : Migration} {p : Prop} (h : m.success = true ↔ p) :
    Exits (.ok (.returned (migrationCode m))) p := by
  rw [migrationCode]
  split
  · next hsuccess => exact exits_zero (h.mp hsuccess)
  · next hfailure => exact exits_one fun hp => hfailure (h.mpr hp)

/-! ## Generating -/

/-- What a module is generated from: every model is compiled, and no two share a prefix. -/
structure Generates (settings : CompilerSettings) (registry : Registry) (cs : List Compiled) :
    Prop where
  compiled : List.Forall₂ (fun d c => (Compilation.ofDecl settings d).result = .ok c) registry cs
  prefixes : (cs.map fun c => constantPrefix c.model).Nodup

theorem generates_iff : Generates settings registry cs ↔
    registry.compiled settings = .ok cs ∧ ∃ text, module? cs = .ok text := by
  simp only [Generated.module?_eq_ok, Registry.compiled_eq_ok]
  exact ⟨fun h => ⟨h.compiled, _, h.prefixes, rfl⟩, fun ⟨h, _, hprefixes, _⟩ => ⟨h, hprefixes⟩⟩

/-- The compiled models of a registry, written as a module. -/
def generated (settings : CompilerSettings) (registry : Registry) (path : String) : Run Path := do
  let cs ← registry.compileAll settings
  Generated.writeModule cs path

section Emit

variable {t : Session}

/-- Behind a module that is generated its place is printed. -/
theorem emit_of_ok {target : Path}
    (h : (generated settings registry path).run s = (.ok target, t)) :
    (emit settings registry path).run s = (.ok (.returned 0), { t with
      happenings := t.happenings ++ [.printed ("Wrote " ++ target.text ++ "\n")] }) := by
  rw [generated] at h
  dsimp only [emit]
  rw [Run.run_bind, Run.run_attempt, h]
  rfl

/-- A module that is refused is complained of. -/
theorem emit_of_error {e : Fault}
    (h : (generated settings registry path).run s = (.error e, t))
    (hfault : isGenerationFault e = true) :
    (emit settings registry path).run s = (.ok (.returned 1), { t with
      happenings := t.happenings ++
        [.complained ("Generation failed: " ++ e.message ++ "\n")] }) := by
  rw [generated] at h
  dsimp only [emit]
  rw [Run.run_bind, Run.run_attempt, h]
  dsimp only
  rw [if_pos hfault]
  rfl

end Emit

theorem run_happen (x : Happening) (s : Session) :
    (Run.happen x).run s = (.ok (), { s with happenings := s.happenings ++ [x] }) := rfl

/-- What is told of a module that is written. -/
def wroteLine (cs : List Compiled) (path : String) : String :=
  s!"Wrote generated module for {Decimal.ofNat cs.length} models to {(Path.ofText path).text}"

theorem writeModule_eq {text : String} (htext : module? cs = .ok text)
    (hfile : (Path.ofText path).isDirectory = false) :
    (Generated.writeModule cs path).run s = (do
      Run.happen (.wrote (Path.ofText path).text text)
      Generated.writer.info (wroteLine cs path)
      return Path.ofText path : Run Path).run s := by
  simp only [Generated.writeModule, htext, hfile]
  rw [Run.run_bind, Run.run_ofExcept]
  rfl

/-- A module is written to its file, with nothing but records around it. -/
theorem generated_ok {text : String} (hcs : registry.compiled settings = .ok cs)
    (htext : module? cs = .ok text) (hfile : (Path.ofText path).isDirectory = false)
    (s : Session) : ∃ hs ks t,
      (generated settings registry path).run s = (.ok (Path.ofText path), t) ∧
      t.happenings = s.happenings ++ (hs ++ .wrote (Path.ofText path).text text :: ks) ∧
      (∀ x ∈ hs, x.IsLogged) ∧ ∀ x ∈ ks, x.IsLogged := by
  -- in front of the file stands what compiling logs, and behind it that the file was written
  obtain ⟨hs, u, hcompile, hu, hhs, -⟩ := (registry.compileAll_answers settings).tells
    (registry.adds_compileAll isLogged_logged settings) s
  rw [hcs] at hcompile
  obtain ⟨ks, t, htold, ht, hks, -⟩ := (Run.Silent.info Generated.writer (wroteLine cs path)).tells
    (Run.adds_info isLogged_logged _ _)
    { u with happenings := u.happenings ++ [.wrote (Path.ofText path).text text] }
  refine ⟨hs, ks, t, ?_, ?_, hhs, hks⟩
  · rw [generated, Run.run_bind, hcompile]
    dsimp only
    rw [writeModule_eq htext hfile, Run.run_bind, run_happen]
    dsimp only
    rw [Run.run_bind, htold]
    rfl
  · rw [ht]
    dsimp only
    rw [hu]
    simp only [List.append_assoc, List.singleton_append]

/-- What no module is generated from is refused, and nothing but records tells of it. -/
theorem generated_error (hnamed : ∀ d ∈ registry, d.IsNamed)
    (hnone : ¬ ∃ cs, Generates settings registry cs) (path : String) (s : Session) :
    ∃ e hs t, (generated settings registry path).run s = (.error e, t) ∧
      isGenerationFault e = true ∧ t.happenings = s.happenings ++ hs ∧ ∀ x ∈ hs, x.IsLogged := by
  obtain ⟨hs, t, hcompile, ht, hlogged, -⟩ := (registry.compileAll_answers settings).tells
    (registry.adds_compileAll isLogged_logged settings) s
  cases hcompiled : registry.compiled settings with
  | error e =>
    obtain ⟨d, rfl⟩ := Migration.refused_of_isNamed hnamed hcompiled
    rw [hcompiled] at hcompile
    exact ⟨_, hs, t, by rw [generated, Run.run_bind, hcompile], rfl, ht, hlogged⟩
  | ok cs =>
    rw [hcompiled] at hcompile
    cases htext : module? cs with
    | ok text => exact absurd ⟨cs, generates_iff.mpr ⟨hcompiled, text, htext⟩⟩ hnone
    | error e =>
      -- the text is made first, so the file is left alone
      have hwrite : (Generated.writeModule cs path).run t = (.error e, t) := by
        simp only [Generated.writeModule, htext]
        rfl
      have hshared : isGenerationFault e = true := by
        rw [module?] at htext
        split at htext
        · cases htext
        · rw [← Except.error.inj htext]
          rfl
      have hrun : (generated settings registry path).run s = (.error e, t) := by
        rw [generated, Run.run_bind, hcompile]
        exact hwrite
      exact ⟨e, hs, t, hrun, hshared, ht, hlogged⟩

/-- How generating a module ends: zero exactly if there is a module, which is then what the file
has; otherwise no file is written. The database is not asked for anything. -/
structure Emits (settings : CompilerSettings) (registry : Registry) (path : String)
    (result : Except Fault Ending) (hs : List Happening) : Prop where
  exits : Exits result (∃ cs, Generates settings registry cs)
  writes : ∀ cs, Generates settings registry cs → ∃ text, module? cs = .ok text ∧
    Happening.files hs = [((Path.ofText path).text, text)]
  keeps : (¬ ∃ cs, Generates settings registry cs) → Happening.files hs = []
  unasked : Happening.events hs = []

/-- If there is a module, it is what the file has in the end. -/
theorem emit_generates (hcs : Generates settings registry cs)
    (hfile : (Path.ofText path).isDirectory = false) (s : Session) :
    let ended := (emit settings registry path).run s
    ∃ hs, ended.2.happenings = s.happenings ++ hs ∧
      Emits settings registry path ended.1 hs := by
  obtain ⟨hcompiled, text, htext⟩ := generates_iff.mp hcs
  obtain ⟨ls, ks, t, hrun, ht, hls, hks⟩ := generated_ok hcompiled htext hfile s
  obtain ⟨hs, hadds, hunasked⟩ := adds_emit settings registry path s
  rw [emit_of_ok hrun] at hadds ⊢
  -- behind the file there are records and the line that names it
  have hwrote : hs = ls ++ .wrote (Path.ofText path).text text ::
      (ks ++ [.printed ("Wrote " ++ (Path.ofText path).text ++ "\n")]) := by
    refine List.append_cancel_left (hadds.symm.trans ?_)
    rw [ht]
    simp only [List.append_assoc, List.cons_append]
  have hfiles : Happening.files hs = [((Path.ofText path).text, text)] := by
    rw [hwrote]
    exact Happening.files_wrote (Happening.unwritten_of_logged hls)
      ((Happening.unwritten_of_logged hks).append (Happening.unwritten_printed _)) _ _
  refine ⟨hs, hadds, exits_zero ⟨cs, hcs⟩, fun cs' hcs' => ⟨text, ?_, hfiles⟩,
    fun hnone => absurd ⟨cs, hcs⟩ hnone, Happening.events_of_unasked hunasked⟩
  rw [Registry.compiled_unique hcompiled hcs'.compiled]
  exact htext

/-- If there is none, the complaint comes behind records only. -/
theorem emit_refuses (hnamed : ∀ d ∈ registry, d.IsNamed)
    (hnone : ¬ ∃ cs, Generates settings registry cs) (s : Session) :
    let ended := (emit settings registry path).run s
    ∃ hs, ended.2.happenings = s.happenings ++ hs ∧
      Emits settings registry path ended.1 hs := by
  obtain ⟨e, ls, t, hrun, hfault, ht, hls⟩ := generated_error hnamed hnone path s
  obtain ⟨hs, hadds, hunasked⟩ := adds_emit settings registry path s
  rw [emit_of_error hrun hfault] at hadds ⊢
  have hcomplained : hs = ls ++ [.complained ("Generation failed: " ++ e.message ++ "\n")] := by
    refine List.append_cancel_left (hadds.symm.trans ?_)
    rw [ht, List.append_assoc]
  refine ⟨hs, hadds, exits_one hnone, fun cs hcs => absurd ⟨cs, hcs⟩ hnone, fun _ => ?_,
    Happening.events_of_unasked hunasked⟩
  rw [hcomplained]
  exact Happening.files_of_unwritten
    ((Happening.unwritten_of_logged hls).append (Happening.unwritten_complained _))

theorem emit_emits (settings : CompilerSettings) (hnamed : ∀ d ∈ registry, d.IsNamed)
    (hfile : (Path.ofText path).isDirectory = false) (s : Session) :
    let ended := (emit settings registry path).run s
    ∃ hs, ended.2.happenings = s.happenings ++ hs ∧
      Emits settings registry path ended.1 hs := by
  by_cases hgenerates : ∃ cs, Generates settings registry cs
  · obtain ⟨cs, hcs⟩ := hgenerates
    exact emit_generates hcs hfile s
  · exact emit_refuses hnamed hgenerates s

/-! ## Migrating -/

/-- A migration on a connector ends with a result that can be reported, and prints nothing. -/
theorem run_reported (settings : CompilerSettings) (hworded : registry.IsWorded)
    (name : ConnectorName) (isDryRun : Bool) (s : Session) : ∃ m attempts hs t,
      (Migration.run settings registry (.connector name) isDryRun).run s = (.ok m, t) ∧
      t.happenings = s.happenings ++ hs ∧ Happening.prints hs = [] ∧
      Migration.Ends settings registry isDryRun (name.target s) s attempts m
        (Happening.events hs) ∧
      Migration.IsReport registry isDryRun m := by
  have hadds := Migration.adds_run (p := fun x => ∀ text, x ≠ .printed text)
    (fun r text => (isLogged_logged r).unprinted text) settings registry (.connector name) isDryRun
    (.inr fun e text => nofun)
  obtain ⟨hs, hhs, hunprinted, m, attempts, hm, hends⟩ :=
    hadds.with_does (Migration.run_ends settings hworded.isNamed name isDryRun) s
  exact ⟨m, attempts, hs, _, Prod.ext hm rfl, hhs, Happening.prints_of_unprinted hunprinted, hends,
    Migration.run_returns settings hworded.isNamed hworded.isText _ isDryRun s m hm⟩

/-- How a migration that a request asks for ends. The result is that of a migration on a
connector to a target, whose database has the scripts of the session. Zero is returned exactly
if the migration is a success. In text each step is reported in a marked line, in order;
otherwise the result is reported as one object. -/
structure Deploys (settings : CompilerSettings) (registry : Registry) (r : Request)
    (target : Target) (s : Session) (m : Migration) (attempts : List Migration.Attempt)
    (result : Except Fault Ending) (hs : List Happening) : Prop where
  runs : ∃ name t, t.script = s.script ∧ t.upcoming = s.upcoming ∧ name.target t = target ∧
    ((Migration.run settings registry (.connector name) r.isDryRun).run t).1 = .ok m
  ends : Migration.Ends settings registry r.isDryRun target s attempts m (Happening.events hs)
  exits : Exits result (Migration.Succeeds settings registry r.isDryRun attempts)
  marks : r.hasJsonLogs = false →
    (Happening.prints hs).filter isMarked = m.steps.map fun x => markedLine x ++ "\n"
  object : r.hasJsonLogs = true → ∃ text, Json.page 2 m.toValue = .ok text ∧
    Happening.prints hs = [text ++ "\n"]

/-- Nothing is asked for among what was printed. -/
theorem events_printed (texts : List String) : Happening.events (texts.map .printed) = [] := by
  refine Happening.events_of_unasked fun x hx e => ?_
  obtain ⟨text, -, rfl⟩ := List.mem_map.mp hx
  exact nofun

theorem migrateForPeople_deploys (settings : CompilerSettings) (hworded : registry.IsWorded)
    (name : ConnectorName) {r : Request} (htext : r.hasJsonLogs = false) (s : Session) :
    let ended := (migrateForPeople settings registry (.connector name) r).run s
    ∃ m attempts hs, ended.2.happenings = s.happenings ++ hs ∧
      Deploys settings registry r (name.target s) s m attempts ended.1 hs := by
  obtain ⟨ls, hopening, hls⟩ := openingLines_eq_ok hworded.isText r.isDryRun
  have hfront : ∀ l ∈ headLines ++ ls, Unmarked l :=
    List.forall_mem_append.mpr ⟨unmarked_headLines, hls⟩
  -- the lines above the report are printed before the migration, so it starts in another session
  let s' : Session := { s with
    happenings := s.happenings ++ (ended (headLines ++ ls)).map .printed }
  have htarget : name.target s' = name.target s := name.target_of_world rfl
  obtain ⟨m, attempts, ks, t, hrun, ht, hks, hends, hreport⟩ :=
    run_reported settings hworded name r.isDryRun s'
  have hpeople : (migrateForPeople settings registry (.connector name) r).run s =
      (.ok (.returned (migrationCode m)), { t with
        happenings := t.happenings ++ (ended (reportLines r.isVerbose m)).map .printed }) := by
    simp only [migrateForPeople, Run.run_bind, run_printLines, hopening, Run.run_ofExcept,
      List.append_assoc, ← List.map_append, ← ended_append]
    rw [hrun]
    rfl
  rw [hpeople]
  refine ⟨m, attempts, (ended (headLines ++ ls)).map .printed ++ ks ++
    (ended (reportLines r.isVerbose m)).map .printed, ?_, ?_⟩
  · dsimp only
    rw [ht]
    simp only [s', List.append_assoc]
  · constructor
    case runs => exact ⟨name, s', rfl, rfl, htarget, by rw [hrun]⟩
    case ends =>
      rw [Happening.events_append, Happening.events_append, events_printed, events_printed,
        List.nil_append, List.append_nil]
      rw [htarget] at hends
      exact hends.of_scripts rfl rfl
    case exits => exact exits_migrationCode hends.success
    case marks =>
      intro _
      rw [Happening.prints_append, Happening.prints_append, prints_ended, prints_ended, hks,
        List.append_nil, List.filter_append, filter_ended hfront,
        filter_reportLines _ hreport.statements, List.nil_append]
    case object => exact fun hjson => absurd (htext.symm.trans hjson) Bool.false_ne_true

theorem migrateForPrograms_deploys (settings : CompilerSettings) (hworded : registry.IsWorded)
    (name : ConnectorName) {r : Request} (hjson : r.hasJsonLogs = true) (s : Session) :
    let ended := (migrateForPrograms settings registry (.connector name) r).run s
    ∃ m attempts hs, ended.2.happenings = s.happenings ++ hs ∧
      Deploys settings registry r (name.target s) s m attempts ended.1 hs := by
  obtain ⟨m, attempts, ks, t, hrun, ht, hks, hends, hreport⟩ :=
    run_reported settings hworded name r.isDryRun s
  obtain ⟨text, hpage⟩ := hreport.renders hworded.isText (.indented 2) 0
  have hprograms : (migrateForPrograms settings registry (.connector name) r).run s =
      (.ok (.returned (migrationCode m)), { t with
        happenings := t.happenings ++ [.printed (text ++ "\n")] }) := by
    simp only [migrateForPrograms, Run.run_bind, hrun, Run.run_ofExcept, Json.page, hpage]
    rfl
  rw [hprograms]
  refine ⟨m, attempts, ks ++ [.printed (text ++ "\n")], ?_, ?_⟩
  · dsimp only
    rw [ht, List.append_assoc]
  -- what is printed last is the object alone, so nothing in it is asked of the database
  · constructor
    case runs => exact ⟨name, s, rfl, rfl, rfl, by rw [hrun]⟩
    case ends =>
      rw [Happening.events_append, ← List.map_singleton, events_printed, List.append_nil]
      exact hends
    case exits => exact exits_migrationCode hends.success
    case marks => exact fun htext => absurd (htext.symm.trans hjson) Bool.false_ne_true
    case object =>
      intro _
      refine ⟨text, hpage, ?_⟩
      rw [Happening.prints_append, hks]
      rfl

/-! ## Deploying -/

/-- Deploying from a session that is come to is deploying from the one that was left. -/
theorem Deploys.of_readies {known : Settings} {s t : Session} {r : Request} {m : Migration}
    {target : Target} {attempts : List Migration.Attempt} (hready : Readies known s t)
    {ls : List Happening} (hls : ∀ x ∈ ls, x.IsLogged)
    (h : Deploys settings registry r target t m attempts result hs) :
    Deploys settings registry r target s m attempts result (ls ++ hs) := by
  -- log records are neither events of the database nor lines that are printed
  have hevents : Happening.events (ls ++ hs) = Happening.events hs := by
    rw [Happening.events_append, Happening.events_of_unasked fun x hx => (hls x hx).unasked]
    rfl
  have hprints : Happening.prints (ls ++ hs) = Happening.prints hs := by
    rw [Happening.prints_append, Happening.prints_of_unprinted fun x hx => (hls x hx).unprinted]
    rfl
  obtain ⟨name, u, hscript, hupcoming, htarget, hm⟩ := h.runs
  constructor
  case runs =>
    exact ⟨name, u, hscript.trans hready.script, hupcoming.trans hready.upcoming, htarget, hm⟩
  case ends =>
    rw [hevents]
    exact h.ends.of_scripts hready.script hready.upcoming
  case exits => exact h.exits
  case marks =>
    rw [hprints]
    exact h.marks
  case object =>
    rw [hprints]
    exact h.object

theorem Emits.of_logged {ls : List Happening} (hls : ∀ x ∈ ls, x.IsLogged)
    (h : Emits settings registry path result hs) :
    Emits settings registry path result (ls ++ hs) := by
  have hfiles : Happening.files (ls ++ hs) = Happening.files hs :=
    Happening.files_append_of_unwritten (Happening.unwritten_of_logged hls) hs
  constructor
  case exits => exact h.exits
  case writes =>
    rw [hfiles]
    exact h.writes
  case keeps =>
    rw [hfiles]
    exact h.keeps
  case unasked =>
    rw [Happening.events_append, Happening.events_of_unasked fun x hx => (hls x hx).unasked]
    exact h.unasked

/-- Without a path a request is carried out as a migration. -/
theorem carryOut_deploys (settings : CompilerSettings) (hworded : registry.IsWorded)
    (name : ConnectorName) {r : Request} (hnone : r.emit.filter (· != "") = none) (s : Session) :
    let ended := (carryOut settings registry (.connector name) r).run s
    ∃ m attempts hs, ended.2.happenings = s.happenings ++ hs ∧
      Deploys settings registry r (name.target s) s m attempts ended.1 hs := by
  cases hjson : r.hasJsonLogs with
  | true =>
    have hcarry : carryOut settings registry (.connector name) r =
        migrateForPrograms settings registry (.connector name) r := by
      rw [carryOut, hnone, hjson]
      rfl
    rw [hcarry]
    exact migrateForPrograms_deploys settings hworded name hjson s
  | false =>
    have hcarry : carryOut settings registry (.connector name) r =
        migrateForPeople settings registry (.connector name) r := by
      rw [carryOut, hnone, hjson]
      rfl
    rw [hcarry]
    exact migrateForPeople_deploys settings hworded name hjson s

/-- With a path that is not empty a request is carried out by generating a module. -/
theorem carryOut_emit {r : Request} (hsome : r.emit.filter (· != "") = some path)
    (settings : CompilerSettings) (registry : Registry) (db : MigrationDatabase) :
    carryOut settings registry db r = emit settings registry path := by
  rw [carryOut, hsome]

/-- The arguments that migrate the sample. -/
def migratingArguments : List String :=
  ["--models", "app:MODELS", "--connection", "postgresql://db"]

/-- The request that asks for a migration of the sample, or for its module at a path. -/
def visitsRequest (path : Option String) : Request :=
  ⟨some "app:MODELS", false, path, some "postgresql://db", false, false, []⟩

end CommandLine

end Relvar
