/-
Plans. An operation takes values of several names from an instance, and some operations need
the key of the model. A plan is made exactly if the key is there and the instance has a value
for each name; otherwise the first thing that is missing is named. All this comes before the
database is asked for anything.
-/
import Relvar.Proofs.Instance
import Relvar.Proofs.Trace

set_option autoImplicit false

namespace Relvar

open Value (lacking)

namespace Compiled

/-- The refusal of an operation that needs a key. -/
def keyless (c : Compiled) (operation : String) : Fault :=
  .binding ⟨.noKey operation c.model, some (.str c.model), none⟩

/-- Why an instance is not paired with names. An operation that is named needs a key. -/
inductive Unplanned (c : Compiled) (row : Value) (keyed : Option String) (names : List String) :
    Fault → Prop
  | keyless {operation : String} (named : keyed = some operation) (none : c.keyName = "") :
      Unplanned c row keyed names (c.keyless operation)
  | lacking {name : String} (key : keyed.isSome → c.keyName ≠ "") (lacks : row.Lacks names name) :
      Unplanned c row keyed names (lacking (some (.str c.model)) name)

/-- A plan that pairs what creating takes with the values of an instance. -/
structure IsCreatePlan (c : Compiled) (row : Value) (p : CreatePlan) : Prop where
  model : p.model = c.model
  values : row.Pairs c.arguments.create p.values

/-- A plan that pairs what updating takes, and the key, with the values of an instance. -/
structure IsUpdatePlan (c : Compiled) (row : Value) (p : UpdatePlan) : Prop where
  model : p.model = c.model
  values : row.Pairs c.arguments.update p.values
  key : p.key = c.keyName
  keyValue : row.fieldValue? c.keyName = some p.keyValue

variable {c : Compiled} {row v : Value} {operation key : String} {e : Fault}

theorem Unplanned.isBinding {keyed : Option String} {names : List String}
    (h : c.Unplanned row keyed names e) : ∃ b, e = .binding b := by
  cases h with
  | keyless => exact ⟨_, rfl⟩
  | lacking => exact ⟨_, rfl⟩

/-! ## Keys -/

theorem requireKey_eq_ok :
    c.requireKey operation = .ok key ↔ c.keyName ≠ "" ∧ key = c.keyName := by
  by_cases h : c.keyName = ""
  · simp [requireKey, h]
  · simp [requireKey, h, eq_comm]

theorem requireKey_eq_error :
    c.requireKey operation = .error e ↔ c.keyName = "" ∧ e = c.keyless operation := by
  by_cases h : c.keyName = ""
  · simp [requireKey, h, keyless, eq_comm]
  · simp [requireKey, h]

/-! ## Plans -/

theorem createPlan_eq_ok {p : CreatePlan} : c.createPlan row = .ok p ↔ c.IsCreatePlan row p := by
  simp only [createPlan, Except.bind_eq_ok, Value.readFields_eq_ok]
  constructor
  · rintro ⟨values, hvalues, h⟩
    obtain rfl := Except.ok.inj h
    exact ⟨rfl, hvalues⟩
  · rintro ⟨hmodel, hvalues⟩
    exact ⟨p.values, hvalues, by rw [← hmodel]; rfl⟩

theorem createPlan_eq_error :
    c.createPlan row = .error e ↔ c.Unplanned row none c.arguments.create e := by
  simp only [createPlan, Except.bind_eq_error, Value.readFields_eq_error]
  constructor
  · rintro (⟨name, hlacks, rfl⟩ | ⟨values, -, h⟩)
    · exact .lacking (by simp) hlacks
    · cases h
  · intro h
    cases h with
    | keyless named => cases named
    | @lacking name key lacks => exact .inl ⟨name, lacks, rfl⟩

theorem updatePlan_eq_ok {p : UpdatePlan} :
    c.updatePlan row = .ok p ↔ c.keyName ≠ "" ∧ c.IsUpdatePlan row p := by
  simp only [updatePlan, Except.bind_eq_ok, requireKey_eq_ok, Value.readFields_eq_ok,
    Value.readField_eq_ok]
  constructor
  · rintro ⟨_, ⟨hkey, rfl⟩, values, hvalues, v, hv, h⟩
    obtain rfl := Except.ok.inj h
    exact ⟨hkey, rfl, hvalues, rfl, hv⟩
  · rintro ⟨hkey, hmodel, hvalues, hname, hv⟩
    obtain ⟨model, key, keyValue, values⟩ := p
    obtain rfl : model = c.model := hmodel
    obtain rfl : key = c.keyName := hname
    exact ⟨_, ⟨hkey, rfl⟩, values, hvalues, keyValue, hv, rfl⟩

/-- The values are read before the key, so the key is missed last. -/
theorem updatePlan_eq_error : c.updatePlan row = .error e ↔
    c.Unplanned row (some "update") (c.arguments.update ++ [c.keyName]) e := by
  simp only [updatePlan, Except.bind_eq_error, requireKey_eq_ok, requireKey_eq_error,
    Value.readFields_eq_ok, Value.readFields_eq_error, Value.readField_eq_error]
  constructor
  · rintro (⟨hnone, rfl⟩ | ⟨_, ⟨hkey, rfl⟩, ⟨name, hlacks, rfl⟩ | ⟨values, hvalues, h⟩⟩)
    · exact .keyless rfl hnone
    · exact .lacking (fun _ => hkey) (Value.lacks_concat.mpr (.inl hlacks))
    -- the values are all there, so what is missed is the key
    · rcases h with ⟨hnone, rfl⟩ | ⟨v, -, h⟩
      · exact .lacking (fun _ => hkey)
          (Value.lacks_concat.mpr (.inr ⟨Value.carries_iff.mpr ⟨values, hvalues⟩, hnone, rfl⟩))
      · cases h
  · intro h
    cases h with
    | keyless named none =>
      obtain rfl := Option.some.inj named
      exact .inl ⟨none, rfl⟩
    | @lacking name key lacks =>
      refine .inr ⟨_, ⟨key rfl, rfl⟩, ?_⟩
      rcases Value.lacks_concat.mp lacks with hlacks | ⟨hcarries, hnone, rfl⟩
      · exact .inl ⟨name, hlacks, rfl⟩
      · obtain ⟨values, hvalues⟩ := Value.carries_iff.mp hcarries
        exact .inr ⟨values, hvalues, .inl ⟨hnone, rfl⟩⟩

theorem deleteValue_eq_ok :
    c.deleteValue row = .ok v ↔ c.keyName ≠ "" ∧ row.fieldValue? c.keyName = some v := by
  simp only [deleteValue, Except.bind_eq_ok, requireKey_eq_ok, Value.readField_eq_ok]
  constructor
  · rintro ⟨_, ⟨hkey, rfl⟩, hv⟩
    exact ⟨hkey, hv⟩
  · rintro ⟨hkey, hv⟩
    exact ⟨_, ⟨hkey, rfl⟩, hv⟩

theorem deleteValue_eq_error :
    c.deleteValue row = .error e ↔ c.Unplanned row (some "delete") [c.keyName] e := by
  simp only [deleteValue, Except.bind_eq_error, requireKey_eq_ok, requireKey_eq_error,
    Value.readField_eq_error]
  constructor
  · rintro (⟨hnone, rfl⟩ | ⟨_, ⟨hkey, rfl⟩, hnone, rfl⟩)
    · exact .keyless rfl hnone
    · exact .lacking (fun _ => hkey) (Value.lacks_cons.mpr (.inl ⟨hnone, rfl⟩))
  · intro h
    cases h with
    | keyless named none =>
      obtain rfl := Option.some.inj named
      exact .inl ⟨none, rfl⟩
    | lacking key lacks =>
      rcases Value.lacks_cons.mp lacks with ⟨hnone, rfl⟩ | ⟨-, hnil⟩
      · exact .inr ⟨_, ⟨key rfl, rfl⟩, hnone, rfl⟩
      · exact absurd hnil Value.not_lacks_nil

/-! ## Operations -/

/-- What planning an operation comes to: it succeeds exactly if the key that the operation may
need is there and the instance has a value for each name, it gives such a plan, and its
refusal is the outcome of the operation, for which nothing is asked. -/
structure Plans {α : Type} (c : Compiled) (row : Value) (keyed : Option String)
    (names : List String) (IsPlan : α → Prop) (plan : Except Fault α) (operation : Run Int) :
    Prop where
  succeeds : (∃ p, plan = .ok p) ↔ (keyed.isSome → c.keyName ≠ "") ∧ row.Carries names
  isPlan : ∀ p, plan = .ok p → IsPlan p
  refused : ∀ e, plan = .error e → c.Unplanned row keyed names e ∧ operation.Answers (.error e)

end Compiled

namespace Executor

variable (x : Executor) (row : Value)

theorem save_plans : x.compiled.Plans row none x.compiled.arguments.create
    (x.compiled.IsCreatePlan row) (x.compiled.createPlan row) (x.save row) where
  succeeds := by
    simp only [Compiled.createPlan_eq_ok, Value.carries_iff]
    constructor
    · rintro ⟨p, hp⟩
      exact ⟨by simp, p.values, hp.values⟩
    · rintro ⟨-, values, hvalues⟩
      exact ⟨⟨_, values⟩, rfl, hvalues⟩
  isPlan p hp := Compiled.createPlan_eq_ok.mp hp
  refused e he := by
    refine ⟨Compiled.createPlan_eq_error.mp he, ?_⟩
    rw [save, he]
    exact Run.fail_answers e _

theorem update_plans : x.compiled.Plans row (some "update")
    (x.compiled.arguments.update ++ [x.compiled.keyName]) (x.compiled.IsUpdatePlan row)
    (x.compiled.updatePlan row) (x.update row) where
  succeeds := by
    have hsome := Option.isSome_iff_exists (x := row.fieldValue? x.compiled.keyName)
    rw [Value.carries_concat, Value.carries_iff, hsome]
    simp only [Compiled.updatePlan_eq_ok]
    constructor
    · rintro ⟨p, hkey, hp⟩
      exact ⟨fun _ => hkey, ⟨p.values, hp.values⟩, p.keyValue, hp.keyValue⟩
    · rintro ⟨hkey, ⟨values, hvalues⟩, v, hv⟩
      exact ⟨⟨_, _, v, values⟩, hkey rfl, rfl, hvalues, rfl, hv⟩
  isPlan p hp := (Compiled.updatePlan_eq_ok.mp hp).2
  refused e he := by
    refine ⟨Compiled.updatePlan_eq_error.mp he, ?_⟩
    rw [update, he]
    exact Run.fail_answers e _

theorem delete_plans : x.compiled.Plans row (some "delete") [x.compiled.keyName]
    (row.fieldValue? x.compiled.keyName = some ·) (x.compiled.deleteValue row)
    (x.delete row) where
  succeeds := by
    have hsome := Option.isSome_iff_exists (x := row.fieldValue? x.compiled.keyName)
    rw [Value.Carries, List.forall_mem_singleton, hsome]
    simp only [Compiled.deleteValue_eq_ok]
    constructor
    · rintro ⟨v, hkey, hv⟩
      exact ⟨fun _ => hkey, v, hv⟩
    · rintro ⟨hkey, v, hv⟩
      exact ⟨v, hkey rfl, hv⟩
  isPlan v hv := (Compiled.deleteValue_eq_ok.mp hv).2
  refused e he := by
    refine ⟨Compiled.deleteValue_eq_error.mp he, ?_⟩
    rw [delete, he]
    exact Run.fail_answers e _

/-- **Plans come first.** Of every instance, saving takes the arguments of creating, updating
those of updating and then the key, and deleting the key. Each is planned exactly if the
instance has values for these and, but for saving, the model has a key; else the operation
ends with the refusal of the first that is missing, and the database is asked for nothing.
So the statement that would delete by no key is never sent. -/
theorem operations_planned :
    x.compiled.Plans row none x.compiled.arguments.create
      (x.compiled.IsCreatePlan row) (x.compiled.createPlan row) (x.save row) ∧
    x.compiled.Plans row (some "update")
      (x.compiled.arguments.update ++ [x.compiled.keyName]) (x.compiled.IsUpdatePlan row)
      (x.compiled.updatePlan row) (x.update row) ∧
    x.compiled.Plans row (some "delete") [x.compiled.keyName]
      (row.fieldValue? x.compiled.keyName = some ·) (x.compiled.deleteValue row)
      (x.delete row) ∧
    (x.compiled.keyName = "" → (x.delete row).Answers (.error (x.compiled.keyless "delete"))) :=
  ⟨x.save_plans row, x.update_plans row, x.delete_plans row, fun hnone =>
    ((x.delete_plans row).refused _
      (Compiled.deleteValue_eq_error.mpr (.keyless rfl hnone))).2⟩

end Executor

/-- A model without a key. -/
def keylessDefinition : Definition := ⟨"notes", [Field.plain "note" .text false]⟩

/-- What the model without a key is compiled to. -/
def keylessNotes : Compiled where
  model := "notes"
  table := "create table if not exists notes (note text not null);"
  key := none
  arguments := ⟨["note"], ["note"]⟩
  delete := "delete from notes where =?1;"
  definition := keylessDefinition

/-- A null is a value that is saved; without a value the field is named, and without a key
nothing is deleted. -/
theorem Executor.operations_planned_keyless :
    let x : Executor := ⟨keylessNotes, .brought none, .dollar⟩
    (∃ p, keylessNotes.createPlan (.dict [(.str "note", .null)]) = .ok p) ∧
    (x.save (.dict [])).Answers (.error (lacking (some (.str "notes")) "note")) ∧
    (x.delete (.dict [])).Answers (.error (keylessNotes.keyless "delete")) := by
  intro x
  obtain ⟨hsaved, -⟩ := x.operations_planned (.dict [(.str "note", .null)])
  obtain ⟨hsave, -, -, hdelete⟩ := x.operations_planned (.dict [])
  exact ⟨hsaved.succeeds.mpr (by decide), (hsave.refused _ rfl).2, hdelete rfl⟩

end Relvar
