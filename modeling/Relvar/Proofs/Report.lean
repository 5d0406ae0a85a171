/-
What the result of a migration holds, as far as reporting it depends on that. Whatever the
database does, the details of its steps are texts and lists of texts, so the result can be
written as data; and its statements create tables.
-/
import Relvar.Proofs.Success
import Relvar.Value.Json

set_option autoImplicit false

namespace Relvar

/-! ## Values that can be written as data -/

namespace Json

/-- A value that has a text, in every layout and at every level. -/
def Renders (v : Value) : Prop := ∀ l level, ∃ s, render l level v = .ok s

theorem renders_text {v : Value} (h : v.asText?.isSome = true) : Renders v := by
  intro l level
  refine ⟨atom v, ?_⟩
  cases v with
  | str | semantic | member => rfl
  | _ => cases h

theorem renders_null : Renders .null := fun _ _ => ⟨_, rfl⟩

theorem renders_bool (b : Bool) : Renders (.bool b) := fun _ _ => ⟨_, rfl⟩

theorem renders_int (n : Int) : Renders (.int n) := fun _ _ => ⟨_, rfl⟩

theorem renders_str (s : String) : Renders (.str s) := renders_text rfl

theorem renders_list {vs : List Value} (h : ∀ v ∈ vs, Renders v) : Renders (.list vs) := by
  -- each element is one level deeper than the list, so the level is left general
  have hall : ∀ l level, ∃ ss, renderAll l level vs = .ok ss := by
    intro l level
    induction vs with
    | nil => exact ⟨[], rfl⟩
    | cons v vs ih =>
      obtain ⟨hv, hvs⟩ := List.forall_mem_cons.mp h
      obtain ⟨s, hs⟩ := hv l level
      obtain ⟨ss, hss⟩ := ih hvs
      exact ⟨s :: ss, by rw [renderAll, hs, hss]; rfl⟩
  intro l level
  obtain ⟨ss, hss⟩ := hall l (level + 1)
  exact ⟨_, by rw [render, hss]; rfl⟩

/-- A mapping with texts for keys can be written if its values can. -/
theorem renders_dict {es : List (String × Value)} (h : ∀ e ∈ es, Renders e.2) :
    Renders (.dict (Dict.ofStrings es)) := by
  have hall : ∀ l level, ∃ ss, renderEntries l level (Dict.ofStrings es) = .ok ss := by
    intro l level
    induction es with
    | nil => exact ⟨[], rfl⟩
    | cons e es ih =>
      obtain ⟨he, hes⟩ := List.forall_mem_cons.mp h
      obtain ⟨s, hs⟩ := he l level
      obtain ⟨ss, hss⟩ := ih hes
      have hkey : key (.str e.1) = .ok e.1 := rfl
      have hcons : Dict.ofStrings (e :: es) = (.str e.1, e.2) :: Dict.ofStrings es := rfl
      exact ⟨_, by rw [hcons, renderEntries, hkey, hs, hss]; rfl⟩
  intro l level
  obtain ⟨ss, hss⟩ := hall l (level + 1)
  exact ⟨_, by rw [render, hss]; rfl⟩

end Json

open Json (Renders)

namespace Migration

variable {settings : CompilerSettings} {registry : Registry} {cs : List Compiled}

/-! ## Steps -/

/-- A step whose details can be written as data. -/
def HasData (x : Step) : Prop := ∀ d ∈ x.details, Renders d.2

/-- A statement that creates a table. -/
def CreatesTable (st : String) : Prop := ∃ rest, st = "create table if not exists " ++ rest

/-- A compiled model has a statement that creates its table. -/
theorem createsTable_of_compiled (hcs : registry.compiled settings = .ok cs) :
    ∀ c ∈ cs, CreatesTable c.table := by
  intro c hc
  obtain ⟨d, -, hd⟩ := forall₂_mem_right (Registry.compiled_eq_ok.mp hcs) hc
  obtain ⟨fs, -, -, hmodel⟩ := Compilation.ofDecl_eq_ok hd
  obtain ⟨clauses, htable, -⟩ := hmodel.table
  exact ⟨d.name.text ++ " (" ++ ", ".intercalate clauses ++ ");", by
    rw [htable]
    simp only [String.append_assoc]⟩

theorem hasData_nil {x : Step} (h : x.details = []) : HasData x := by
  simp [HasData, h]

theorem hasData_statement {x : Step} {c : Compiled} (h : x.details = statementDetails c) :
    HasData x := by
  intro d hd
  rw [h] at hd
  obtain rfl := List.mem_singleton.mp hd
  exact Json.renders_str _

/-- Telling of a step hands it on. -/
theorem tellStep_returns (x : Step) (h : HasData x) :
    (do tellStep x; return x : Run Step).Returns HasData :=
  Run.Returns.after fun _ => Run.Returns.pure h

/-- The step that compiles names the models, or the model and the field that are refused. -/
theorem compileStep_returns (hnamed : ∀ d ∈ registry, d.IsNamed)
    (htext : ∀ d ∈ registry, d.name.asText?.isSome = true) :
    (compileStep settings registry).Returns fun p =>
      HasData p.1 ∧ ∀ c ∈ p.2, CreatesTable c.table := by
  refine Run.Returns.after fun _ => Run.Returns.bind
    (registry.compileAll_answers settings).attempt.returns fun r hr => ?_
  subst hr
  cases hcompiled : registry.compiled settings with
  | ok cs =>
    refine Run.Returns.after fun _ => Run.Returns.pure ⟨?_, createsTable_of_compiled hcompiled⟩
    intro d hd
    obtain rfl := List.mem_singleton.mp hd
    refine Json.renders_list fun v hv => ?_
    obtain ⟨name, -, rfl⟩ := List.mem_map.mp hv
    exact Json.renders_str name
  | error e =>
    obtain ⟨pre, d, post, hsplit, -, he⟩ := Registry.compiled_eq_error hcompiled
    have hd : d ∈ registry := by simp [hsplit]
    obtain ⟨n, hn⟩ := hnamed d hd
    -- the names spell text, so the fault is a refusal and the step tells of it
    obtain ⟨c, field, rfl⟩ := Compilation.ofDecl_refusal hn he
    refine Run.Returns.after fun _ => Run.Returns.after fun _ => Run.Returns.pure ⟨?_, by simp⟩
    have hfield : Renders ((field.map Value.str).getD .null) := by
      cases field with
      | none => exact Json.renders_null
      | some s => exact Json.renders_str s
    simp only [HasData, List.forall_mem_cons]
    exact ⟨Json.renders_str _, Json.renders_text (htext d hd), hfield, by simp⟩

theorem testStep_returns (db : MigrationDatabase) : (testStep db).Returns HasData := by
  refine Run.Returns.after fun _ => Run.Returns.after fun r => ?_
  cases r with
  | ok _ => exact Run.Returns.bind (Run.Returns.pure (hasData_nil rfl)) tellStep_returns
  | error e =>
    exact Run.Returns.after fun _ =>
      Run.Returns.bind (Run.Returns.pure (hasData_nil rfl)) tellStep_returns

theorem tableStep_returns (db : MigrationDatabase) (c : Compiled) :
    (tableStep db c).Returns HasData := by
  refine Run.Returns.after fun _ => Run.Returns.after fun r => ?_
  cases r with
  | ok _ => exact Run.Returns.bind (Run.Returns.pure (hasData_statement rfl)) tellStep_returns
  | error e =>
    exact Run.Returns.after fun _ => Run.Returns.after fun _ =>
      Run.Returns.bind (Run.Returns.pure (hasData_nil rfl)) tellStep_returns

theorem tableSteps_returns (db : MigrationDatabase) (cs : List Compiled) :
    (tableSteps db cs).Returns fun xs => ∀ x ∈ xs, HasData x := by
  induction cs with
  | nil => exact Run.Returns.pure (by simp)
  | cons c cs ih =>
    refine Run.Returns.bind (Run.Returns.within _ (tableStep_returns db c)) fun x hx => ?_
    split
    · refine Run.Returns.pure (List.forall_mem_cons.mpr ⟨hx, fun y hy => ?_⟩)
      obtain ⟨c', -, rfl⟩ := List.mem_map.mp hy
      exact hasData_nil rfl
    · exact Run.Returns.bind ih fun xs hxs =>
        Run.Returns.pure (List.forall_mem_cons.mpr ⟨hx, hxs⟩)

/-! ## Results -/

/-- What is known of a result whatever the database did: its models are those of the registry,
the details of its steps can be written as data, and its statements create tables. -/
structure IsReport (registry : Registry) (isDryRun : Bool) (m : Migration) : Prop where
  models : m.models = registry.names
  dry : m.isDryRun = isDryRun
  details : ∀ x ∈ m.steps, HasData x
  statements : ∀ st ∈ m.statements, CreatesTable st

theorem run_returns (settings : CompilerSettings) (hnamed : ∀ d ∈ registry, d.IsNamed)
    (htext : ∀ d ∈ registry, d.name.asText?.isSome = true) (db : MigrationDatabase)
    (isDryRun : Bool) :
    (run settings registry db isDryRun).Returns (IsReport registry isDryRun) := by
  -- the steps are collected along the way, so the result is followed branch by branch
  have hperform : ∀ moment, (perform settings registry db isDryRun
      ⟨moment, isDryRun, false, registry.names, [], [], []⟩).Returns
        (IsReport registry isDryRun) := by
    intro moment
    refine Run.Returns.bind (compileStep_returns hnamed htext) ?_
    rintro ⟨x, cs⟩ ⟨hx, hcs⟩
    have hstatements : ∀ st ∈ cs.map Compiled.table, CreatesTable st := by
      intro st hst
      obtain ⟨c, hc, rfl⟩ := List.mem_map.mp hst
      exact hcs c hc
    dsimp only
    split
    · exact Run.Returns.pure ⟨rfl, rfl, by simpa using hx, by simp⟩
    · split
      · next hdry =>
        refine Run.Returns.after fun _ => Run.Returns.pure ⟨rfl, rfl, ?_, hstatements⟩
        refine List.forall_mem_cons.mpr ⟨hx, fun y hy => ?_⟩
        obtain ⟨c, -, rfl⟩ := List.mem_map.mp hy
        exact hasData_statement rfl
      · refine Run.Returns.bind (testStep_returns db) fun y hy => ?_
        split
        · exact Run.Returns.pure ⟨rfl, rfl, by simpa using ⟨hx, hy⟩, hstatements⟩
        · refine Run.Returns.bind (tableSteps_returns db cs) fun tables htables => ?_
          refine Run.Returns.pure ⟨rfl, rfl, ?_, hstatements⟩
          exact List.forall_mem_cons.mpr ⟨hx, List.forall_mem_cons.mpr ⟨hy, htables⟩⟩
  exact Run.Returns.after fun s => Run.Returns.after fun _ =>
    Run.Returns.bind (hperform _) fun m hm => Run.Returns.after fun _ => Run.Returns.pure hm

/-- The result of a migration can be written as data, if the names of its models are text. -/
theorem IsReport.renders {m : Migration} {isDryRun : Bool} (h : IsReport registry isDryRun m)
    (htext : ∀ d ∈ registry, d.name.asText?.isSome = true) : Renders m.toValue := by
  have htexts : ∀ ss : List String, Renders (texts ss) := by
    intro ss
    refine Json.renders_list fun v hv => ?_
    obtain ⟨s, -, rfl⟩ := List.mem_map.mp hv
    exact Json.renders_str s
  have hmodels : Renders (.list m.models) := by
    refine Json.renders_list fun v hv => ?_
    rw [h.models] at hv
    obtain ⟨d, hd, rfl⟩ := List.mem_map.mp hv
    exact Json.renders_text (htext d hd)
  -- the details of a step are data of any kind; all else is text, a number or a truth value
  have hstep : ∀ x ∈ m.steps, Renders x.toValue := by
    intro x hx
    have herror : Renders (Step.textOrNull x.error) := by
      cases herror : x.error with
      | none => exact Json.renders_null
      | some s => exact Json.renders_str s
    refine Json.renders_dict ?_
    simp only [List.forall_mem_cons]
    exact ⟨Json.renders_str _, Json.renders_str _, Json.renders_str _, herror,
      Json.renders_dict (h.details x hx), by simp⟩
  have hsteps : Renders (.list (m.steps.map Step.toValue)) := by
    refine Json.renders_list fun v hv => ?_
    obtain ⟨x, hx, rfl⟩ := List.mem_map.mp hv
    exact hstep x hx
  have hsummary : Renders (.dict (Dict.ofStrings m.summary)) := by
    refine Json.renders_dict ?_
    simp only [summary, List.forall_mem_cons]
    exact ⟨Json.renders_int _, Json.renders_int _, Json.renders_int _, Json.renders_int _, by simp⟩
  refine Json.renders_dict ?_
  simp only [List.forall_mem_cons]
  exact ⟨Json.renders_str _, Json.renders_bool _, Json.renders_bool _, hmodels, htexts _, hsteps,
    htexts _, hsummary, by simp⟩

end Migration

end Relvar
