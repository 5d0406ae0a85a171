/-
What the compiler returns. Telling how a compilation went never changes how it
ends, so a compiled model is the one that the last draft makes, and its parts are
read off the fields: the key is the field that is marked, the arguments are
sublists of the names, and the table has one clause for each field.
-/
import Relvar.Proofs.Compilation.Draft
import Relvar.Proofs.Trace
import Relvar.Proofs.Value.Text

set_option autoImplicit false

namespace Relvar

/-! ## Telling -/

namespace Compiler

open Run (Answers Silent)

theorem silent_tellPlanned (planned : List (Field × Role)) : Silent (tellPlanned planned) := by
  induction planned with
  | nil => exact Answers.pure ()
  | cons p rest ih => exact (Answers.within _ (Silent.debug _ _)).bind fun _ => ih

theorem silent_tellRefused (model : Value) (e : Fault) : Silent (tellRefused model e) := by
  unfold tellRefused
  split
  · exact Answers.within _ (Silent.error _ _)
  · exact Answers.pure ()

theorem planned_answers (c : Compilation) {m : Run Compiled} {r : Except Fault Compiled}
    (h : m.Answers r) : (do
      tellPlanned c.planned
      if c.isKeyless then tellKeyless c.model
      m : Run Compiled).Answers r := by
  refine (silent_tellPlanned c.planned).after ?_
  cases c.isKeyless with
  | true => exact (Silent.warning _ _).after h
  | false => exact h

/-- Telling of a compilation ends as the compilation did. -/
theorem tell_answers (c : Compilation) : (tell c).Answers c.result := by
  refine Answers.within _ (planned_answers c ?_)
  cases c.result with
  | ok compiled => exact (Silent.info _ _).bind fun _ => Answers.pure compiled
  | error e => exact (silent_tellRefused c.model e).bind fun _ => Answers.throw e

/-- Reading a declaration ends as its source says. -/
theorem declare_answers (source name : Value) :
    (declare source name).Answers (ModelDecl.ofSource source name) := by
  have hsource : Silent (tellSource source) := by
    unfold tellSource
    split
    · split
      · exact Silent.debug _ _
      · exact Answers.pure ()
    · exact Answers.pure ()
  exact hsource.bind fun _ => Answers.ofExcept _

/-- Compiling a source ends as compiling its declaration does. -/
theorem compile_answers (settings : CompilerSettings) (source name : Value) :
    (compile settings source name).Answers
      ((ModelDecl.ofSource source name).bind fun d => (Compilation.ofDecl settings d).result) :=
  (declare_answers source name).bind fun d => tell_answers (.ofDecl settings d)

/-- Compiling a definition ends as the compilation of its fields does. -/
theorem compileDefinition_answers (settings : CompilerSettings) (d : Definition) :
    (compileDefinition settings d).Answers (Compilation.ofDefinition settings d).result :=
  tell_answers (.ofDefinition settings d)

end Compiler

/-! ## Compiled models -/

/-- A compiled model is the model of several fields under a name. At most one of
the fields is marked, and that one is the key, made by the database if the field
is counted up or serial. The arguments are the names of those fields that the
operations take, in order. The table has one clause for each field, which depends
on nothing but the field, its role and the settings. A row is deleted by its
key. -/
structure Compiled.IsModelOf (settings : CompilerSettings) (model : String) (fs : List Field)
    (c : Compiled) : Prop where
  fields : c.definition.fields = fs
  marked : (fs.filter (·.isPrimaryKey)).length ≤ 1
  keyName : c.keyName = ((fs.find? (·.isPrimaryKey)).map (·.name)).getD ""
  generation : c.key.map (·.source) = (fs.find? (·.isPrimaryKey)).map fun f =>
    if f.isAuto then .auto else if f.type = .serial then .serial else .supplied
  create : c.arguments.create =
    (fs.filter fun f => !f.hasDefault && !f.isGeneratedKey).map (·.name)
  update : c.arguments.update = (fs.filter (!·.isPrimaryKey)).map (·.name)
  table : ∃ clauses, c.table =
      "create table if not exists " ++ model ++ " (" ++ ", ".intercalate clauses ++ ");" ∧
    List.Forall₂ (fun f clause => f.clause f.role f.generation settings.stringSize = .ok clause)
      fs clauses
  delete : c.delete = "delete from " ++ model ++ " where " ++ c.keyName ++ "=?1;"

/-- What a draft is finished to, once the name of the model is accepted. -/
theorem Draft.finish_eq_ok {d : Draft} {model : Value} {c : Compiled}
    (hc : d.finish model = .ok c) :
    ∃ n, model.checkName [.name "name"] = .ok n ∧
      c = ⟨n, createTable model.text d.clauses, d.key, d.arguments,
        Statement.delete model.text (PrimaryKey.nameOf d.key), ⟨n, d.fields⟩⟩ := by
  unfold Draft.finish Definition.ofValues at hc
  cases hn : model.checkName [.name "name"] with
  | error es => simp [hn, Except.mapError, bind, Except.bind] at hc
  | ok n =>
    simp only [hn, Except.mapError, bind, Except.bind, pure, Except.pure, Except.ok.injEq] at hc
    exact ⟨n, rfl, hc.symm⟩

theorem Draft.Describes.fields_eq {settings : CompilerSettings} {fs : List Field} {d : Draft}
    (h : d.Describes settings fs) : d.fields = fs := by
  simp [Draft.fields, h.planned, Function.comp_def]

/-- The statement that deletes a row, in full. -/
theorem Statement.delete_eq (model key : String) :
    Statement.delete model key = "delete from " ++ model ++ " where " ++ key ++ "=?1;" := by
  have hend : "=?1;" = "=" ++ marker 1 ++ ";" := by decide
  rw [hend, ← String.append_assoc, ← String.append_assoc]
  rfl

/-- The model that a described draft is finished to is the model of its fields. -/
theorem Draft.Describes.finish {settings : CompilerSettings} {fs : List Field} {d : Draft}
    {model : Value} {c : Compiled} (h : d.Describes settings fs) (hc : d.finish model = .ok c) :
    c.IsModelOf settings model.text fs := by
  obtain ⟨n, -, rfl⟩ := finish_eq_ok hc
  refine ⟨h.fields_eq, h.marked, ?_, ?_, h.create, h.update, ⟨d.clauses, rfl, h.clauses⟩,
    Statement.delete_eq _ _⟩
  · simp [Compiled.keyName, PrimaryKey.nameOf, h.key, PrimaryKey.ofField, Function.comp_def]
  · simp [h.key, PrimaryKey.ofField, Field.keySource, Function.comp_def]

namespace Compilation

variable {α : Type} {settings : CompilerSettings} {model : Value}
  {extract : α → Except Fault Field} {xs : List α} {c : Compiled}

/-- A compilation that succeeds has passed every field, of which there is one, and its
model is the model of what they were extracted to, under the name that is spelled. -/
theorem ofFields_eq_ok (hc : (ofFields settings model extract xs).result = .ok c) :
    ∃ fs, fs ≠ [] ∧ List.Forall₂ (fun x f => extract x = .ok f) xs fs ∧
      model.checkName [.name "name"] = .ok c.model ∧ c.IsModelOf settings model.text fs := by
  unfold ofFields at hc
  by_cases hxs : xs.isEmpty
  · simp [hxs] at hc
  · simp only [hxs, Bool.false_eq_true, if_false] at hc
    cases hrun : Draft.empty.advance settings extract xs with
    | mk d stop =>
      cases stop with
      | some e => simp [hrun] at hc
      | none =>
        obtain ⟨fs, hfs, hd⟩ := Draft.describes_empty.advance hrun
        -- as many fields are extracted as are declared
        have hne : fs ≠ [] := by
          rintro rfl
          exact hxs (by rw [List.forall₂_nil_right_iff.mp hfs]; rfl)
        simp only [hrun, conclude] at hc
        split at hc
        · cases hc
        · obtain ⟨n, hn, heq⟩ := Draft.finish_eq_ok hc
          exact ⟨fs, hne, hfs, by rw [hn, heq], hd.finish hc⟩

/-- The fields that are extracted one by one are those that are extracted together. -/
theorem ofDecl_eq_ok {d : ModelDecl} (hc : (ofDecl settings d).result = .ok c) :
    ∃ fs, fs ≠ [] ∧ List.Forall₂ (fun x f => Field.extract x = .ok f) d.fields fs ∧
      c.IsModelOf settings d.name.text fs := by
  obtain ⟨fs, hne, hfs, -, hmodel⟩ := ofFields_eq_ok hc
  exact ⟨fs, hne, hfs.imp fun x f hx => Except.mapError_eq_ok.mp hx, hmodel⟩

theorem ofDefinition_eq_ok {d : Definition} (hc : (ofDefinition settings d).result = .ok c) :
    d.fields ≠ [] ∧ c.model = d.name ∧ c.IsModelOf settings d.name d.fields := by
  obtain ⟨fs, hne, hfs, hname, hmodel⟩ := ofFields_eq_ok hc
  -- the fields of a definition are extracted to themselves
  have heq : d.fields = fs := by
    have hids : List.Forall₂ (fun x f => x = f) d.fields fs :=
      hfs.imp fun x f hx => Except.ok.inj hx
    exact List.forall₂_eq_eq_eq ▸ hids
  have hspelled : c.model = d.name := by
    rw [Value.checkName_str] at hname
    split at hname
    · cases hname
    · exact (Except.ok.inj hname).symm
  rw [heq]
  exact ⟨hne, hspelled, hmodel⟩

end Compilation

/-- **What a compiled model is.** Whatever the compiler makes of a source is the model
of the fields that its declaration stands for, in the order in which they are
declared; whatever it makes of a definition is the model of the fields there. -/
theorem compiled_isModelOf (settings : CompilerSettings) (c : Compiled) :
    (∀ source name s, ((Compiler.compile settings source name).run s).1 = .ok c →
      ∃ d fs, ModelDecl.ofSource source name = .ok d ∧
        List.Forall₂ (fun x f => Field.extract x = .ok f) d.fields fs ∧
        c.IsModelOf settings d.name.text fs) ∧
    ∀ d s, ((Compiler.compileDefinition settings d).run s).1 = .ok c →
      c.IsModelOf settings d.name d.fields := by
  refine ⟨fun source name s hc => ?_, fun d s hc => ?_⟩
  · rw [(Compiler.compile_answers settings source name).outcome s] at hc
    obtain ⟨d, hd, hc⟩ := Except.bind_eq_ok.mp hc
    obtain ⟨fs, -, hfs, hmodel⟩ := Compilation.ofDecl_eq_ok hc
    exact ⟨d, fs, hd, hfs, hmodel⟩
  · rw [(Compiler.compileDefinition_answers settings d).outcome s] at hc
    exact (Compilation.ofDefinition_eq_ok hc).2.2

/-- A compiled model that the compiler makes under settings, of a source that is
declared under a text or of a definition. -/
inductive Compiler.Makes (settings : CompilerSettings) (c : Compiled) : Prop
  | source {source name : Value} {s : Session} {d : ModelDecl}
      (run : ((compile settings source name).run s).1 = .ok c)
      (decl : ModelDecl.ofSource source name = .ok d) (named : d.name = .str c.model)
  | definition {d : Definition} {s : Session}
      (run : ((compileDefinition settings d).run s).1 = .ok c)

/-- A compiled model is the model of its own fields, of which there is one. -/
theorem Compiler.Makes.isModelOf {settings : CompilerSettings} {c : Compiled}
    (h : Makes settings c) :
    c.definition.fields ≠ [] ∧ c.IsModelOf settings c.model c.definition.fields := by
  cases h with
  | @source source name s d run decl named =>
    rw [(compile_answers settings source name).outcome s, decl] at run
    obtain ⟨fs, hne, -, hmodel⟩ := Compilation.ofDecl_eq_ok run
    obtain rfl := hmodel.fields
    -- the table is written under the name that is shown; `named` says that it is the one spelled
    rw [named] at hmodel
    exact ⟨hne, hmodel⟩
  | @definition d s run =>
    rw [(compileDefinition_answers settings d).outcome s] at run
    obtain ⟨hne, hname, hmodel⟩ := Compilation.ofDefinition_eq_ok run
    rw [hname, hmodel.fields]
    exact ⟨hne, hmodel⟩

/-! ## A sample -/

/-- A declared model with a field of each kind. -/
def visitsDecl : ModelDecl where
  name := .str "visits"
  fields := [
    ⟨"note", .str "Option<Text>", [("default", .str "it's, not null);")]⟩,
    ⟨"id", .str "Serial", [("primary_key", .bool true)]⟩,
    ⟨"owner", .semantic .integer, [("unique", .bool true), ("foreign_key", .str "people.id")]⟩,
    ⟨"seen", .type (.named .datetime), [("default", .str "now")]⟩,
    ⟨"done", .str "Boolean", []⟩]

/-- What the sample is compiled to. -/
def visits : Compiled where
  model := "visits"
  table := "create table if not exists visits (note text default 'it''s, not null);', " ++
    "id serial primary key, owner integer unique not null references people(id), " ++
    "seen varchar(40) default current_timestamp not null, done integer not null);"
  key := some ⟨"id", .serial⟩
  arguments := ⟨["owner", "done"], ["note", "owner", "seen", "done"]⟩
  delete := "delete from visits where id=?1;"
  definition := ⟨"visits", [
    { Field.plain "note" .text true with
      hasDefault := true, default := some (.str "it's, not null);") },
    { Field.plain "id" .serial false with isPrimaryKey := true },
    { Field.plain "owner" .integer false with
      isUnique := true, reference := some ⟨"people", "id"⟩ },
    { Field.plain "seen" .dateTime false with hasDefault := true, default := some (.str "now") },
    Field.plain "done" .boolean false]⟩

/-- A session in an empty environment, with a database that does all it is asked. -/
def calmSession : Session := .start [] .smooth ⟨⟨2026, 1, 1⟩, 0, 0, 0, 0, none⟩

theorem compile_visits (s : Session) :
    ((Compiler.compile .default (.model visitsDecl) .null).run s).1 = .ok visits := by
  rw [(Compiler.compile_answers _ _ _).outcome s]
  exact Except.eq_ok_of_toOption (by decide +kernel)

theorem compileDefinition_visits (s : Session) :
    ((Compiler.compileDefinition .default visits.definition).run s).1 = .ok visits := by
  rw [(Compiler.compileDefinition_answers _ _).outcome s]
  exact Except.eq_ok_of_toOption (by decide +kernel)

theorem makes_visits : Compiler.Makes .default visits :=
  .source (compile_visits calmSession) rfl rfl

theorem visits_isModelOf :
    (((Compiler.compile .default (.model visitsDecl) .null).run calmSession).1 = .ok visits ∧
      ∃ d fs, ModelDecl.ofSource (.model visitsDecl) .null = .ok d ∧
        List.Forall₂ (fun x f => Field.extract x = .ok f) d.fields fs ∧
        visits.IsModelOf .default d.name.text fs) ∧
    ((Compiler.compileDefinition .default visits.definition).run calmSession).1 = .ok visits ∧
      visits.IsModelOf .default "visits" visits.definition.fields :=
  ⟨⟨compile_visits _, (compiled_isModelOf .default visits).1 _ _ _ (compile_visits calmSession)⟩,
    compileDefinition_visits _,
    (compiled_isModelOf .default visits).2 _ _ (compileDefinition_visits calmSession)⟩

end Relvar
