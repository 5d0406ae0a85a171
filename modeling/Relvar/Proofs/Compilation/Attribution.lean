/-
Which model a refusal names. A source is compiled under one name: a declared model under its
own, a record class under the given name or else that of its table, and fields under the given
name. Every refusal that is about a model names it so, with one exception. A record class is
renamed only when its fields are declared, so a field that is mistyped is refused under the name
of the table, whatever name is given.
-/
import Relvar.Proofs.Compilation.Phases
import Relvar.Proofs.RecordClass.Field

set_option autoImplicit false

namespace Relvar

/-! ## Names -/

/-- A value names what another does: it is that value, or the text that it spells. -/
def Value.SameName (given v : Value) : Prop :=
  v = given ∨ ∃ s, given.spelledText = .ok s ∧ v = .str s

theorem Value.sameName_of_checkName {place : List Place} {given : Value} {n : String}
    (h : given.checkName place = .ok n) : given.SameName (.str n) :=
  .inr ⟨n, spelledText_of_checkName h, rfl⟩

namespace ModelDecl

/-- The name that a source is compiled under. -/
def nameFor (source name : Value) : Value :=
  match source with
  | .model m => m.name
  | .recordClass c => if name.isTruthy then name else RecordClass.tableName c
  | _ => name

variable {source name : Value} {d : ModelDecl} {e : DeclError}

theorem named_ne_refused {fs : List FieldDecl} : named name fs ≠ .error (.declaration e) := by
  rw [named_eq]
  split <;> simp

/-- A declared model that is renamed has the name that is given, or the text of it. -/
theorem sameName_renamed (c : RecordClass) {n : String}
    (hn : c.tableName.checkName [.name "name"] = .ok n) (fs : List FieldDecl) :
    (nameFor (.recordClass c) name).SameName (renamed name ⟨.str n, fs⟩).name := by
  rw [nameFor, renamed]
  by_cases htruthy : name.isTruthy = true
  · rw [if_pos htruthy]
    cases hsame : name.sameKey (.str n) with
    | true =>
      -- the name that is given equals that of the table, which stays
      have htext := Value.spelledText_of_asText? (Value.asText?_of_sameKey_str hsame)
      simp only [Bool.not_true, Bool.and_false, Bool.false_eq_true, if_false]
      exact .inr ⟨n, htext, rfl⟩
    | false =>
      simp only [htruthy, Bool.not_false, Bool.and_self, if_true]
      exact .inl rfl
  · rw [if_neg htruthy]
    simp only [htruthy, Bool.false_and, Bool.false_eq_true, if_false]
    exact Value.sameName_of_checkName hn

/-- A source stands for a declared model of the name that it is compiled under. -/
theorem sameName_ofSource (h : ofSource source name = .ok d) :
    (nameFor source name).SameName d.name := by
  have hfields : ofFields source name = .ok d → name.SameName d.name := by
    intro hd
    obtain ⟨-, fs, -, hnamed⟩ := ofFields_eq_ok.mp hd
    obtain ⟨n, hn, rfl⟩ := named_eq_ok hnamed
    exact Value.sameName_of_checkName hn
  -- a class is named by its table unless another name is given; fields by the name given
  cases source with
  | model m => exact .inl (congrArg _ (Except.ok.inj h).symm)
  | recordClass c =>
    obtain ⟨m, hm, rfl⟩ := Except.map_eq_ok.mp h
    obtain ⟨fs, -, hnamed⟩ := Except.bind_eq_ok.mp hm
    obtain ⟨n, hn, rfl⟩ := named_eq_ok hnamed
    exact sameName_renamed c hn fs
  | object kind attributes => cases h
  | field f => cases h
  | _ => exact hfields h

/-- A declared model that a source stands for has a name. -/
theorem name_ne_null (hsource : ∀ m, source = .model m → m.name ≠ .null)
    (h : ofSource source name = .ok d) : d.name ≠ .null := by
  refine name_ofSource (P := fun v => v ≠ .null) hsource (fun _ _ => nofun) ?_ h
  -- what counts as true is not missing
  rintro htruthy rfl
  cases htruthy

/-- How a refusal of a source says which model it is about. It names no model if it is about
none; otherwise it names the one that is compiled, unless the source is a record class that is
mistyped, of which it names the table. -/
inductive Attributed (source name : Value) (e : DeclError) : Prop
  | nameless (nameless : e.IsNameless)
  | model {v : Value} (named : e.model = some v) (same : (nameFor source name).SameName v)
  | table {c : RecordClass} {field : String} (source : source = .recordClass c)
      (mistyped : c.MistypedAt field) (named : e.model = some c.tableName)
      (about : e.field = some (.str field))

/-- The refusal of a source that stands for no declared model. -/
theorem attributed_ofSource (h : ofSource source name = .error (.declaration e)) :
    Attributed source name e := by
  have hfields : nameFor source name = name → ofFields source name = .error (.declaration e) →
      Attributed source name e := by
    intro hname he
    unfold ofFields at he
    -- a name that does not count as true is refused before the fields are looked at
    by_cases htruthy : name.isTruthy = true
    · rw [if_pos htruthy] at he
      rcases Except.bind_eq_error.mp he with he | ⟨fs, -, he⟩
      · have htaken := fieldsOf_taken name source
        rw [he] at htaken
        cases htaken with
        | refused amiss whole told => exact .model told.2 (.inl hname.symm)
      · exact absurd he named_ne_refused
    · rw [if_neg htruthy] at he
      obtain rfl := Fault.declaration.inj (Except.error.inj he)
      exact .nameless ⟨rfl, .inl rfl⟩
  cases source with
  | model m => cases h
  | recordClass c =>
    rcases Except.bind_eq_error.mp (Except.map_eq_error.mp h) with hfs | ⟨fs, -, hnamed⟩
    · obtain ⟨field, hmistyped, hmodel, hfield⟩ := RecordClass.declaredFields_eq_refused hfs
      exact .table rfl hmistyped hmodel hfield
    · exact absurd hnamed named_ne_refused
  | object kind attributes =>
    obtain rfl := Fault.declaration.inj (Except.error.inj h)
    exact .nameless ⟨rfl, .inr ⟨_, rfl⟩⟩
  | field f =>
    obtain rfl := Fault.declaration.inj (Except.error.inj h)
    exact .nameless ⟨rfl, .inr ⟨_, rfl⟩⟩
  | _ => exact hfields rfl h

/-- A record class that is mistyped stands for no declared model. -/
theorem ofSource_mistyped {c : RecordClass} {field : String} (h : c.MistypedAt field)
    (name : Value) :
    ∃ e, ofSource (.recordClass c) name = .error (.declaration e) ∧
      e.model = some c.tableName ∧ e.field = some (.str field) := by
  obtain ⟨e, he, hmodel, hfield⟩ := h.declaredFields
  refine ⟨e, ?_, hmodel, hfield⟩
  rw [ofSource, RecordClass.declaration, he]
  rfl

end ModelDecl

/-! ## Refusals of declared models -/

/-- A declared model whose fields are not extracted is refused under its name. -/
theorem Definition.model_of_refused {d : ModelDecl} {e : DeclError} (hn : d.name ≠ .null)
    (he : Definition.extract d = .error (.declaration e)) : e.model = some d.name := by
  unfold Definition.extract at he
  split at he
  · obtain ⟨i, -, hi⟩ := Except.mapError_eq_error.mp he
    cases hi
  · next e' hfields =>
    obtain ⟨pre, x, post, fs, -, -, hx⟩ := Field.extractAll_eq_error hfields
    obtain ⟨-, c, rfl, -, -⟩ := Field.extract_eq_error [] hx
    rw [← Fault.declaration.inj (Except.error.inj he), DeclError.withModel,
      Value.given?_of_ne_null hn]
    rfl

theorem Compilation.model_of_refused {settings : CompilerSettings} {d : ModelDecl}
    {e : DeclError} (hn : d.name ≠ .null)
    (he : (ofDecl settings d).result = .error (.declaration e)) : e.model = some d.name := by
  rcases ofDecl_fault hn he with ⟨c, field, hrefused⟩ | ⟨-, i, hinvalid⟩
  · rw [Fault.declaration.inj hrefused]
  · cases hinvalid

namespace Compiler

open ModelDecl (nameFor Attributed)

/-- A source is refused when it is compiled, or when its definition is extracted. -/
def Refuses (settings : CompilerSettings) (source name : Value) (s : Session) (e : DeclError) :
    Prop :=
  ((compile settings source name).run s).1 = .error (.declaration e) ∨
    ((define source name).run s).1 = .error (.declaration e)

variable {settings : CompilerSettings} {source name : Value} {s : Session} {e : DeclError}

/-- A source is refused as what it stands for, or because it stands for nothing. -/
theorem Refuses.cases (h : Refuses settings source name s e) :
    ModelDecl.ofSource source name = .error (.declaration e) ∨
      ∃ d, ModelDecl.ofSource source name = .ok d ∧
        ((Compilation.ofDecl settings d).result = .error (.declaration e) ∨
          Definition.extract d = .error (.declaration e)) := by
  rw [Refuses, (compile_answers settings source name).outcome s,
    (define_answers source name).outcome s] at h
  rcases h with h | h
  · rcases Except.bind_eq_error.mp h with h | ⟨d, hd, h⟩
    · exact .inl h
    · exact .inr ⟨d, hd, .inl h⟩
  · rcases Except.bind_eq_error.mp h with h | ⟨d, hd, h⟩
    · exact .inl h
    · exact .inr ⟨d, hd, .inr h⟩

/-- **Which model a refusal names.** A source that is refused, when it is compiled or when its
definition is extracted, is refused under the name that it is compiled under; unless the refusal
is about no model, or the source is a record class that is mistyped. Such a class is always
refused, both ways, under the name of its table, even when it is given another name. -/
theorem refusals_attributed (settings : CompilerSettings) (source name : Value)
    (hsource : ∀ m, source = .model m → m.name ≠ .null) (s : Session) :
    (∀ e, Refuses settings source name s e → Attributed source name e) ∧
    ∀ (c : RecordClass) (field : String), source = .recordClass c → c.MistypedAt field →
      ∃ e, ((compile settings source name).run s).1 = .error (.declaration e) ∧
        ((define source name).run s).1 = .error (.declaration e) ∧
        e.model = some c.tableName ∧ e.field = some (.str field) := by
  constructor
  · intro e he
    rcases he.cases with hrefused | ⟨d, hd, hrefused⟩
    · exact ModelDecl.attributed_ofSource hrefused
    · -- from here on the declared model is known, and it has its final name
      have hname := ModelDecl.name_ne_null hsource hd
      refine .model ?_ (ModelDecl.sameName_ofSource hd)
      rcases hrefused with hcompiled | hextracted
      · exact Compilation.model_of_refused hname hcompiled
      · exact Definition.model_of_refused hname hextracted
  · rintro c field rfl hmistyped
    -- the fields of the class are declared before the name is looked at
    obtain ⟨e, he, hmodel, hfield⟩ := ModelDecl.ofSource_mistyped hmistyped name
    refine ⟨e, ?_, ?_, hmodel, hfield⟩
    · rw [(compile_answers settings _ name).outcome s, he]
      rfl
    · rw [(define_answers _ name).outcome s, he]
      rfl

end Compiler

/-- A record class with a field whose type is named wrongly. -/
def uuidClass : RecordClass :=
  ⟨"User", none, [⟨"id", .type (.named .int), .required, none, none,
    [(.str "sql_type", .str "Uuid")]⟩]⟩

theorem mistypedAt_uuidClass : uuidClass.MistypedAt "id" := by
  refine ⟨[], _, [], rfl, nofun, ⟨.str "Uuid", rfl, .inr fun t h => ?_⟩, rfl⟩
  cases h with
  | name text => cases t <;> simp [Value.asText?, FieldType.name] at text

/-- The same field, in a list of fields, that is not extracted. -/
def uuidFields : Value := .list [.tuple [.str "id", .str "Uuid"]]

/-- Given the name of another table, the list is refused under it, and the class is not. -/
theorem refusals_attributed_uuid :
    (∃ e, Compiler.Refuses .default uuidFields (.str "people") calmSession e ∧
      ModelDecl.Attributed uuidFields (.str "people") e ∧ e.model = some (.str "people")) ∧
    ∃ e, Compiler.Refuses .default (.recordClass uuidClass) (.str "people") calmSession e ∧
      ModelDecl.Attributed (.recordClass uuidClass) (.str "people") e ∧
      e.model = some (.str "User") := by
  obtain ⟨hlist, -⟩ :=
    Compiler.refusals_attributed .default uuidFields (.str "people") nofun calmSession
  obtain ⟨hclass, htable⟩ := Compiler.refusals_attributed .default (.recordClass uuidClass)
    (.str "people") nofun calmSession
  obtain ⟨e, hcompile, -, hmodel, -⟩ := htable uuidClass "id" rfl mistypedAt_uuidClass
  have hfields : Compiler.Refuses .default uuidFields (.str "people") calmSession
      ⟨.unexpectedType "Uuid", some (.str "people"), some (.str "id")⟩ := by
    left
    rw [(Compiler.compile_answers _ _ _).outcome calmSession]
    rfl
  exact ⟨⟨_, hfields, hlist _ hfields, rfl⟩, e, .inl hcompile, hclass e (.inl hcompile), hmodel⟩

/-- The class would be compiled under the name that is given, and is refused under another. -/
theorem compile_uuidClass :
    ((Compiler.compile .default (.recordClass uuidClass) (.str "people")).run calmSession).1 =
        .error (.declaration
          ⟨.unexpectedType "Uuid", some (.str "User"), some (.str "id")⟩) ∧
      ModelDecl.nameFor (.recordClass uuidClass) (.str "people") = .str "people" ∧
      ¬ (Value.str "people").SameName (.str "User") := by
  refine ⟨?_, rfl, ?_⟩
  · rw [(Compiler.compile_answers _ _ _).outcome calmSession]
    rfl
  · rintro (h | ⟨s, hs, h⟩)
    · exact absurd (Value.str.inj h) (by decide)
    · obtain rfl : "people" = s := Except.ok.inj hs
      exact absurd (Value.str.inj h) (by decide)

end Relvar
