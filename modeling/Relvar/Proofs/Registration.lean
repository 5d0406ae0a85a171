/-
Registrations. Sources are registered one after another, and a registration may be refused:
the source stands for no declared model, or the name of the model is taken. What is refused
leaves no mark, so the models of a registry are those of the registrations that were not
refused, in their order, under names that differ. A registry is compiled as each of its
models is compiled alone.
-/
import Relvar.Proofs.Migration
import Relvar.Proofs.RecordClass.Field

set_option autoImplicit false

namespace Relvar

/-! ## Sources that stand for no model -/

/-- A fault of a source that stands for no declared model: a part of a declaration is not
valid, or the declaration is refused for its shape or for the type of a field. -/
inductive Fault.Undeclared : Fault → Prop
  | invalid (i : Invalid) : Undeclared (.invalid i)
  | refused {e : DeclError}
      (code : e.cause.code = .unsupportedShape ∨ e.cause.code = .unsupportedFieldType) :
      Undeclared (.declaration e)

/-- A name that is taken is another fault. -/
theorem Fault.Undeclared.category_ne {e : Fault} (h : e.Undeclared) :
    e.category ≠ .declaration .duplicateModel := by
  cases h with
  | invalid i => simp [category]
  | refused code =>
    intro hcategory
    have hcode := Category.declaration.inj hcategory
    rw [hcode] at code
    simp at code

namespace FieldDecl

variable {model v : Value} {e : Fault}

theorem undeclared_refuse {α : Type} {field : Option Value} {c : Cause}
    (hc : c.code = .unsupportedShape) (h : (refuse model field c : Except Fault α) = .error e) :
    e.Undeclared := by
  obtain rfl := Except.error.inj h
  exact .refused (.inl hc)

theorem undeclared_ofTriple {name declared modifiers : Value}
    (h : ofTriple model name declared modifiers = .error e) : e.Undeclared := by
  unfold ofTriple at h
  split at h
  · exact undeclared_refuse rfl h
  · obtain ⟨i, -, rfl⟩ := Except.mapError_eq_error.mp h
    exact .invalid i

theorem undeclared_ofItem (h : ofItem model v = .error e) : e.Undeclared := by
  unfold ofItem at h
  split at h
  · cases h
  · split at h
    · exact undeclared_ofTriple h
    · exact undeclared_refuse rfl h
  · split at h
    · exact undeclared_ofTriple h
    · exact undeclared_refuse rfl h
  · exact undeclared_refuse rfl h

theorem undeclared_ofEntry {key : Value} (h : ofEntry model key v = .error e) :
    e.Undeclared := by
  unfold ofEntry at h
  split at h
  · split at h
    · cases h
    · exact undeclared_ofItem h
    · obtain ⟨i, -, rfl⟩ := Except.mapError_eq_error.mp h
      exact .invalid i
  · exact undeclared_refuse rfl h

theorem undeclared_ofItems {vs : List Value} (h : ofItems model vs = .error e) :
    e.Undeclared := by
  rw [ofItems_eq_mapM] at h
  obtain ⟨-, v, -, -, -, hv⟩ := Except.mapM_eq_error.mp h
  exact undeclared_ofItem hv

theorem undeclared_ofEntries {es : List (Value × Value)} (h : ofEntries model es = .error e) :
    e.Undeclared := by
  rw [ofEntries_eq_mapM] at h
  obtain ⟨-, entry, -, -, -, hentry⟩ := Except.mapM_eq_error.mp h
  exact undeclared_ofEntry hentry

end FieldDecl

/-- A source that stands for no declared model does so whatever model its fault names. -/
theorem Fault.Undeclared.withModel {e : Fault} (h : e.Undeclared) (model : Value) :
    (e.withModel model).Undeclared := by
  cases h with
  | invalid i => exact .invalid i
  | refused code => exact .refused code

namespace ClassField

/-- The type of a field of a record class is refused as a type. -/
theorem code_of_declaredType {f : ClassField} {c : Cause} (h : f.declaredType = .error c) :
    c.code = .unsupportedFieldType := by
  unfold declaredType at h
  split at h
  · cases h
  · rcases Except.bind_eq_error.mp h with h | ⟨⟨inner, nullable⟩, -, h⟩
    · exact TypeName.code_of_unwrap h
    · rcases Except.bind_eq_error.mp h with h | ⟨t, -, h⟩
      · exact TypeName.code_of_resolve h
      · cases h

/-- A field of a record class is refused for its type, or because it has no name. -/
theorem undeclared_declaration {f : ClassField} {e : Fault} (h : f.declaration = .error e) :
    e.Undeclared := by
  rcases Except.bind_eq_error.mp h with h | ⟨type, -, h⟩
  · obtain ⟨e', he', rfl⟩ := Except.mapError_eq_error.mp h
    obtain ⟨c, hc, rfl⟩ := Except.mapError_eq_error.mp he'
    exact .refused (.inr (code_of_declaredType hc))
  · obtain ⟨i, -, rfl⟩ := Except.mapError_eq_error.mp h
    exact .invalid i

theorem undeclared_declarations {fs : List ClassField} {e : Fault}
    (h : declarations fs = .error e) : e.Undeclared := by
  rw [declarations_eq_mapM] at h
  obtain ⟨-, f, -, -, -, hf⟩ := Except.mapM_eq_error.mp h
  exact undeclared_declaration hf

end ClassField

namespace ModelDecl

variable {source name : Value} {e : Fault}

theorem undeclared_named {fields : List FieldDecl} (h : named name fields = .error e) :
    e.Undeclared := by
  obtain ⟨i, -, rfl⟩ := Except.mapError_eq_error.mp h
  exact .invalid i

theorem undeclared_ofFields (h : ofFields source name = .error e) : e.Undeclared := by
  have hfields : ∀ e, fieldsOf name source = .error e → e.Undeclared := by
    intro e he
    unfold fieldsOf at he
    split at he
    · exact FieldDecl.undeclared_ofEntries he
    · exact FieldDecl.undeclared_ofItems he
    · exact FieldDecl.undeclared_ofItems he
    · exact FieldDecl.undeclared_refuse rfl he
  unfold ofFields at h
  dsimp only at h
  split at h
  · rcases Except.bind_eq_error.mp h with h | ⟨fs, -, h⟩
    · exact hfields e h
    · exact undeclared_named h
  · obtain rfl := Except.error.inj h
    exact .refused (.inl rfl)

/-- A source that stands for no declared model is not refused because of other models. -/
theorem undeclared_ofSource (h : ofSource source name = .error e) : e.Undeclared := by
  unfold ofSource at h
  split at h
  · cases h
  · rcases Except.bind_eq_error.mp (Except.map_eq_error.mp h) with h | ⟨fs, -, h⟩
    · obtain ⟨e', he', rfl⟩ := Except.mapError_eq_error.mp h
      exact (ClassField.undeclared_declarations he').withModel _
    · exact undeclared_named h
  · obtain rfl := Except.error.inj h
    exact .refused (.inl rfl)
  · obtain rfl := Except.error.inj h
    exact .refused (.inl rfl)
  · exact undeclared_ofFields h

/-! ## Names -/

/-- The name of a declared model that a source stands for is text, if that of a declared
model that is given is, and the name that is given for it. -/
theorem text_ofSource {d : ModelDecl}
    (hsource : ∀ m : ModelDecl, source = .model m → m.name.asText?.isSome = true)
    (hname : name = .null ∨ name.asText?.isSome = true) (h : ofSource source name = .ok d) :
    d.name.asText?.isSome = true := by
  refine name_ofSource (P := fun v => v.asText?.isSome = true) hsource (fun _ _ => rfl)
    (fun htruthy => ?_) h
  rcases hname with rfl | htext
  · cases htruthy
  · exact htext

end ModelDecl

namespace Registry

open Run (Answers)

/-! ## Calls -/

/-- A call of a registry: the source of a model, and a name for the model. -/
structure Call where
  source : Value
  name : Value

/-- The declared model that the source of a call stands for. -/
def Call.declared (c : Call) : Except Fault ModelDecl := ModelDecl.ofSource c.source c.name

/-- A call in which every name is text. -/
structure Call.IsWorded (c : Call) : Prop where
  source : ∀ m : ModelDecl, c.source = .model m → m.name.asText?.isSome = true
  name : c.name = .null ∨ c.name.asText?.isSome = true

/-- Makes calls one after another and hands on the fault of each call that failed, with the
registry that is there in the end. -/
def serve (r : Registry) : List Call → Run (List (Option Fault) × Registry)
  | [] => return ([], r)
  | c :: calls => do
    match ← (r.register c.source c.name).attempt with
    | .ok next =>
      let (faults, last) ← serve next calls
      return (none :: faults, last)
    | .error e =>
      let (faults, last) ← serve r calls
      return (some e :: faults, last)

/-- The calls that did not fail. -/
def successful : List Call → List (Option Fault) → List Call
  | c :: calls, f :: faults =>
    if f.isNone then c :: successful calls faults else successful calls faults
  | _, _ => []

/-- A name that no model of a registry has. -/
def IsFree (r : Registry) (name : Value) : Prop := ∀ n ∈ r.names, name.sameKey n = false

/-- How a call ends, and what it makes of a registry. -/
structure Call.Ends (c : Call) (r : Registry) (f : Option Fault) (next : Registry) : Prop where
  /-- A call succeeds exactly if its source stands for a declared model whose name is free. -/
  succeeds : f = none ↔ ∃ d, c.declared = .ok d ∧ r.IsFree d.name
  /-- A call that succeeds puts that model last. -/
  adds : f = none → ∃ d, c.declared = .ok d ∧ next = r ++ [d]
  /-- A call fails because of another model exactly if its source stands for a declared model
  whose name is not free. -/
  duplicates : (∃ e, f = some e ∧ e.category = .declaration .duplicateModel) ↔
    ∃ d, c.declared = .ok d ∧ ¬ r.IsFree d.name
  /-- A call that fails leaves the registry as it is. -/
  keeps : ∀ e, f = some e → next = r

/-- How calls one after another end, and what they make of a registry. -/
inductive Serves : Registry → List Call → List (Option Fault) → Registry → Prop
  | nil (r : Registry) : Serves r [] [] r
  | cons {r next last : Registry} {c : Call} {calls : List Call} {f : Option Fault}
      {faults : List (Option Fault)} (ends : c.Ends r f next)
      (rest : Serves next calls faults last) : Serves r (c :: calls) (f :: faults) last

section Calls

variable {r next last : Registry} {c : Call} {calls : List Call} {faults : List (Option Fault)}

theorem isFree_iff {name : Value} : r.IsFree name ↔ r.names.any name.sameKey = false := by
  rw [IsFree, List.any_eq_false]
  simp only [Bool.not_eq_true]

theorem add_of_isFree {d : ModelDecl} (h : r.IsFree d.name) : r.add d = .ok (r ++ [d]) := by
  rw [add, isFree_iff.mp h]
  rfl

theorem add_of_not_isFree {d : ModelDecl} (h : ¬ r.IsFree d.name) :
    r.add d = .error (.declaration ⟨.registeredBefore, some d.name, none⟩) := by
  rw [isFree_iff, Bool.not_eq_false] at h
  rw [add, if_pos h]

/-- A call has one of three endings. -/
theorem Call.ends (hc : c.source ≠ .null) :
    ∃ f next, c.Ends r f next ∧ (r.register c.source c.name).Answers (match f with
      | none => .ok next
      | some e => .error e) := by
  have hanswer := r.register_answers c.name hc
  cases hd : c.declared with
  | error e =>
    -- a source that stands for no model fails with a fault of its own
    have hundeclared := (ModelDecl.undeclared_ofSource hd).category_ne
    rw [declared] at hd
    rw [hd] at hanswer
    refine ⟨some e, r, ⟨by simp [declared, hd], by simp, ?_, by simp⟩, hanswer⟩
    simp [declared, hd, hundeclared]
  | ok d =>
    have hsource := hd
    rw [declared] at hsource
    rw [hsource] at hanswer
    have hanswer : (r.register c.source c.name).Answers ((r.add d).bind .ok) := hanswer
    by_cases hfree : r.IsFree d.name
    · rw [add_of_isFree hfree] at hanswer
      refine ⟨none, r ++ [d], ⟨by simp [hd, hfree], by simp [hd], ?_, by simp⟩, hanswer⟩
      simp [hd, hfree]
    · rw [add_of_not_isFree hfree] at hanswer
      refine ⟨some _, r, ⟨by simp [hd, hfree], by simp, ?_, by simp⟩, hanswer⟩
      simp [hd, hfree, Fault.category, Cause.code]

/-- Calls one after another end as each of them does on the registry that it finds. -/
theorem serve_answers (hcalls : ∀ c ∈ calls, c.source ≠ .null) (r : Registry) :
    ∃ faults last, Serves r calls faults last ∧ (r.serve calls).Answers (.ok (faults, last)) := by
  induction calls generalizing r with
  | nil => exact ⟨[], r, .nil r, Answers.pure _⟩
  | cons c calls ih =>
    obtain ⟨hc, hrest⟩ := List.forall_mem_cons.mp hcalls
    obtain ⟨f, next, hends, hanswer⟩ := Call.ends (r := r) hc
    cases f with
    | none =>
      obtain ⟨faults, last, hserves, hserve⟩ := ih hrest next
      exact ⟨none :: faults, last, .cons hends hserves,
        hanswer.attempt.after (hserve.after (Answers.pure _))⟩
    | some e =>
      -- the calls that follow find the registry that the failed one found
      obtain rfl := hends.keeps e rfl
      obtain ⟨faults, last, hserves, hserve⟩ := ih hrest next
      exact ⟨some e :: faults, last, .cons hends hserves,
        hanswer.attempt.after (hserve.after (Answers.pure _))⟩

/-! ## Runs of calls -/

/-- Names of which none equals an earlier one. -/
def Distinct (names : List Value) : Prop :=
  names.Pairwise fun earlier later => later.sameKey earlier = false

/-- A model with a free name goes behind models with names that differ. -/
theorem distinct_append_singleton {d : ModelDecl} (hr : Distinct r.names) (hd : r.IsFree d.name) :
    Distinct (r ++ [d]).names := by
  rw [names, List.map_append, Distinct, List.pairwise_append]
  refine ⟨hr, List.pairwise_singleton _ _, fun earlier hearlier later hlater => ?_⟩
  obtain rfl := List.mem_singleton.mp hlater
  exact hd earlier hearlier

theorem Call.Ends.distinct {f : Option Fault} (h : c.Ends r f next) (hr : Distinct r.names) :
    Distinct next.names := by
  cases f with
  | some e =>
    rw [h.keeps e rfl]
    exact hr
  | none =>
    obtain ⟨d, hd, rfl⟩ := h.adds rfl
    obtain ⟨d', hd', hfree⟩ := h.succeeds.mp rfl
    obtain rfl := Except.ok.inj (hd.symm.trans hd')
    exact distinct_append_singleton hr hfree

theorem Serves.distinct (h : Serves r calls faults last) (hr : Distinct r.names) :
    Distinct last.names := by
  induction h with
  | nil r => exact hr
  | cons ends rest ih => exact ih (ends.distinct hr)

/-- What calls add to a registry are the declared models of those that succeed. -/
theorem Serves.added (h : Serves r calls faults last) :
    ∃ ds, last = r ++ ds ∧
      List.Forall₂ (fun c d => c.declared = .ok d) (successful calls faults) ds := by
  induction h with
  | nil r => exact ⟨[], (List.append_nil r).symm, .nil⟩
  | @cons r next last c calls f faults ends rest ih =>
    obtain ⟨ds, rfl, hds⟩ := ih
    cases f with
    | some e => exact ⟨ds, by rw [ends.keeps e rfl], hds⟩
    | none =>
      obtain ⟨d, hd, rfl⟩ := ends.adds rfl
      exact ⟨d :: ds, by rw [List.append_assoc, List.singleton_append], .cons hd hds⟩

theorem mem_of_successful (h : c ∈ successful calls faults) : c ∈ calls := by
  induction calls generalizing faults with
  | nil => cases h
  | cons b calls ih =>
    cases faults with
    | nil => cases h
    | cons f faults =>
      rw [successful] at h
      split at h
      · exact (List.mem_cons.mp h).elim (fun h => h ▸ List.mem_cons_self)
          fun h => List.mem_cons_of_mem _ (ih h)
      · exact List.mem_cons_of_mem _ (ih h)

end Calls

/-! ## Compiling a registry -/

/-- How the compilation of a registry ends: every model is compiled to what it is compiled to
alone, under the name that its name spells; or the first that is not compiled alone is
refused. -/
inductive CompilesAlone (settings : CompilerSettings) (r : Registry) :
    Except Fault (List Compiled) → Prop
  | compiled {cs : List Compiled} (each : List.Forall₂ (fun d c =>
        (∀ s, ((Compiler.compile settings (.model d) .null).run s).1 = .ok c) ∧
          d.name.spelledText = .ok c.model ∧
          (d.name.asText?.isSome = true → (Value.str c.model).sameKey d.name = true)) r cs) :
      CompilesAlone settings r (.ok cs)
  | refused {pre post : Registry} {d : ModelDecl} {e : Fault} (split : r = pre ++ d :: post)
      (before : ∀ g ∈ pre, ∃ c, ∀ s,
        ((Compiler.compile settings (.model g) .null).run s).1 = .ok c)
      (first : ∀ s, ((Compiler.compile settings (.model d) .null).run s).1 = .error e) :
      CompilesAlone settings r (.error e)

/-- A declared model is compiled alone as it is compiled in a registry. -/
theorem compile_model (settings : CompilerSettings) (d : ModelDecl) (s : Session) :
    ((Compiler.compile settings (.model d) .null).run s).1 =
      (Compilation.ofDecl settings d).result :=
  (Compiler.compile_answers settings (.model d) .null).outcome s

theorem compileAll_alone (settings : CompilerSettings) (r : Registry) (s : Session) :
    r.CompilesAlone settings ((r.compileAll settings).run s).1 := by
  rw [(r.compileAll_answers settings).outcome s]
  cases h : r.compiled settings with
  | error e =>
    obtain ⟨pre, d, post, rfl, hpre, hd⟩ := compiled_eq_error h
    refine .refused rfl (fun g hg => ?_) fun s => (compile_model settings d s).trans hd
    obtain ⟨c, hc⟩ := hpre g hg
    exact ⟨c, fun s => (compile_model settings g s).trans hc⟩
  | ok cs =>
    refine .compiled ((compiled_eq_ok.mp h).imp fun d c hc => ?_)
    obtain ⟨fs, -, -, hname, -⟩ := Compilation.ofFields_eq_ok hc
    have hspelled := Value.spelledText_of_checkName hname
    -- compiling the model alone runs in any session, for the outcome does not depend on it
    refine ⟨fun s => (compile_model settings d s).trans hc, hspelled, fun htext => ?_⟩
    obtain ⟨t, ht⟩ := Option.isSome_iff_exists.mp htext
    obtain rfl := Except.ok.inj ((Value.spelledText_of_asText? ht).symm.trans hspelled)
    exact Value.sameKey_str ht

/-! ## The law -/

/-- What registries keep to, whatever calls are made. -/
structure Lawful (calls : List Call) (faults : List (Option Fault)) (r : Registry) : Prop where
  /-- Each call ends, on the registry that it finds, as its source and that registry say. -/
  serves : Serves [] calls faults r
  /-- No model has the name of an earlier one. -/
  distinct : Distinct r.names
  /-- The models are the declared models of the calls that succeeded, in their order. -/
  models : List.Forall₂ (fun c d => c.declared = .ok d) (successful calls faults) r
  /-- Their names are text if the names in the calls are. -/
  worded : (∀ c ∈ calls, c.IsWorded) → ∀ d ∈ r, d.name.asText?.isSome = true
  /-- However the registry is compiled, its models are compiled as each of them is alone. -/
  compiles : ∀ settings s, r.CompilesAlone settings ((r.compileAll settings).run s).1

/-- **The law of registries.** Whatever calls are made on a fresh registry, and whichever of
them fail, the registry that is there in the end keeps to the law. -/
theorem serve_registers (calls : List Call) (hcalls : ∀ c ∈ calls, c.source ≠ .null)
    (s : Session) :
    ∃ faults r, ((serve [] calls).run s).1 = .ok (faults, r) ∧ Lawful calls faults r := by
  obtain ⟨faults, r, hserves, hserve⟩ := serve_answers hcalls []
  obtain ⟨ds, hds, hdeclared⟩ := hserves.added
  rw [List.nil_append] at hds
  obtain rfl := hds
  refine ⟨faults, r, hserve.outcome s, ?_⟩
  constructor
  case serves => exact hserves
  case distinct => exact hserves.distinct List.Pairwise.nil
  case models => exact hdeclared
  case worded =>
    intro hworded d hd
    obtain ⟨c, hc, hdecl⟩ := forall₂_mem_right hdeclared hd
    have hword := hworded c (mem_of_successful hc)
    exact ModelDecl.text_ofSource hword.source hword.name hdecl
  case compiles => exact fun settings s => compileAll_alone settings r s

/-- Calls of which the second has no name for its model, and the third the name of the first
model, as a member of an enumeration. -/
def visitsCalls : List Call :=
  [⟨.model visitsDecl, .null⟩, ⟨.list [.field keyDecl], .null⟩,
    ⟨.recordClass ⟨"Visit", none, []⟩, .member "Table" .text (.str "visits")⟩,
    ⟨.dict [(.str "id", .str "Serial")], .str "owners"⟩]

theorem serve_registers_visits : (∀ c ∈ visitsCalls, c.source ≠ .null) ∧
    ∃ faults r, ((serve [] visitsCalls).run calmSession).1 = .ok (faults, r) ∧
      Lawful visitsCalls faults r := by
  have hcalls : ∀ c ∈ visitsCalls, c.source ≠ .null := by simp [visitsCalls]
  exact ⟨hcalls, serve_registers visitsCalls hcalls calmSession⟩

/-- Two of the calls fail, for different faults, and two models are registered. -/
example : (((serve [] visitsCalls).run calmSession).1.toOption.map fun o =>
    (o.1.map (Option.map Fault.category), o.2.map (·.name.text))) =
      some ([none, some (.declaration .unsupportedShape), some (.declaration .duplicateModel),
        none], ["visits", "owners"]) := by
  decide +kernel

end Registry

end Relvar
