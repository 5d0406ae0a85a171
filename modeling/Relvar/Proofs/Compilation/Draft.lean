/-
What a draft is after several fields. A draft is built one field at a time, from
a key, two lists of arguments and a list of clauses that change side by side; it
is described here by the fields alone, without the order in which its parts were
written. Adding a field keeps the description, and so does every run over fields.
-/
import Relvar.Compiler
import Relvar.Proofs.Arguments
import Relvar.Proofs.Outcome

set_option autoImplicit false

namespace Relvar

/-! ## Fields in their roles -/

namespace Field

/-- The role of a field: it is the key if it is marked. -/
def role (f : Field) : Role := if f.isPrimaryKey then .primaryKey else .column

/-- Where the value of a field comes from if it is the key. -/
def generation (f : Field) : Option KeySource :=
  if f.isPrimaryKey then some f.keySource else none

/-- Whether a field is a key that the database makes: one that is counted up, or
that is serial. -/
def isGeneratedKey (f : Field) : Bool := f.isPrimaryKey && (f.isAuto || f.type = .serial)

/-- The clause of a field under settings, in the role that its mark gives it. -/
def ownClause (settings : CompilerSettings) (f : Field) : Except Fault String :=
  f.clause f.role f.generation settings.stringSize

theorem isGenerated_keySource (f : Field) :
    f.keySource.isGenerated = (f.isAuto || f.type = .serial) := by
  unfold keySource
  cases ha : f.isAuto with
  | true => rfl
  | false => by_cases ht : f.type = .serial <;> simp [ht, KeySource.isGenerated]

theorem isPassed_role (f : Field) :
    Arguments.isPassed f.role f.generation = !f.isGeneratedKey := by
  cases h : f.isPrimaryKey <;>
    simp [Arguments.isPassed, role, generation, isGeneratedKey, isGenerated_keySource, h]

/-- The column of a field in a role, with a default. -/
def columnIn (f : Field) (role : Role) (source : Option KeySource) (size : Int)
    (default : Option ColumnDefault) : Column where
  name := f.name
  type := f.type.columnType f.size size
  isKey := role = .primaryKey
  isCounted := role = .primaryKey && source == some .auto
  isUnique := f.isUnique
  default := default
  refusesNull := !f.nullable && role != .primaryKey
  reference := f.reference

/-- The clause of a field is refused only because of its default. -/
theorem clause_eq (f : Field) (role : Role) (source : Option KeySource) (size : Int) :
    f.clause role source size =
      (if f.hasDefault then f.columnDefault.map some else .ok none).map
        fun d => (f.columnIn role source size d).clause := by
  rw [clause, column]
  cases f.hasDefault with
  | false => rfl
  | true => cases f.columnDefault <;> rfl

/-- The column of a field in the role that its mark gives it, with a default. -/
def ownColumn (settings : CompilerSettings) (f : Field) (default : Option ColumnDefault) :
    Column where
  name := f.name
  type := f.type.columnType f.size settings.stringSize
  isKey := f.isPrimaryKey
  isCounted := f.isPrimaryKey && f.isAuto
  isUnique := f.isUnique
  default := default
  refusesNull := !f.nullable && !f.isPrimaryKey
  reference := f.reference

theorem columnIn_role (settings : CompilerSettings) (f : Field) (d : Option ColumnDefault) :
    f.columnIn f.role f.generation settings.stringSize d = f.ownColumn settings d := by
  cases hm : f.isPrimaryKey <;> cases ha : f.isAuto <;>
    simp [columnIn, ownColumn, role, generation, keySource, hm, ha]
  -- a key that is not counted up is serial or supplied
  split <;> simp

theorem ownClause_eq (settings : CompilerSettings) (f : Field) :
    f.ownClause settings =
      (if f.hasDefault then f.columnDefault.map some else .ok none).map
        fun d => (f.ownColumn settings d).clause := by
  simp only [ownClause, clause_eq, columnIn_role]

end Field

/-! ## Descriptions -/

/-- A draft is the draft of several fields: at most one of them is marked and is
the key; the arguments are the names of those that a caller passes; each has a
clause of its own and is planned in its role. -/
structure Draft.Describes (settings : CompilerSettings) (fs : List Field) (d : Draft) : Prop where
  marked : (fs.filter (·.isPrimaryKey)).length ≤ 1
  key : d.key = (fs.find? (·.isPrimaryKey)).map .ofField
  create : d.arguments.create =
    (fs.filter fun f => !f.hasDefault && !f.isGeneratedKey).map (·.name)
  update : d.arguments.update = (fs.filter (!·.isPrimaryKey)).map (·.name)
  clauses : List.Forall₂ (fun f c => f.ownClause settings = .ok c) fs d.clauses
  planned : d.planned = fs.map fun f => (f, f.role)

namespace Draft

variable {settings : CompilerSettings} {fs : List Field} {d next : Draft} {f : Field}

theorem describes_empty : empty.Describes settings [] :=
  ⟨by simp, rfl, rfl, rfl, .nil, rfl⟩

/-! ## Adding a field -/

/-- The draft with a field that passes and its clause. -/
def extend (d : Draft) (f : Field) (clause : String) : Draft :=
  { key := if f.isPrimaryKey then some (.ofField f) else d.key
    arguments := d.arguments.add f f.role f.generation
    clauses := d.clauses ++ [clause]
    planned := d.planned ++ [(f, f.role)] }

theorem observe_eq_ok {known : Option PrimaryKey} (h : f.isPrimaryKey = true → known = none) :
    PrimaryKey.observe known f =
      .ok (f.role, if f.isPrimaryKey then some (.ofField f) else known) := by
  cases hm : f.isPrimaryKey with
  | false => simp [PrimaryKey.observe, Field.role, hm]
  | true => simp [PrimaryKey.observe, Field.role, hm, h hm]

/-- The source that a draft finds for a field is the one that the field has. -/
theorem source_eq (f : Field) (known : Option PrimaryKey) :
    (if f.role = .primaryKey then
      (if f.isPrimaryKey then some (PrimaryKey.ofField f) else known).map (·.source) else none) =
      f.generation := by
  cases hm : f.isPrimaryKey <;> simp [Field.role, Field.generation, PrimaryKey.ofField, hm]

/-- A field that makes no second key is added if its clause can be written. -/
theorem add_eq_map (h : f.isPrimaryKey = true → d.key = none) :
    d.add settings f = (f.ownClause settings).map (d.extend f) := by
  rw [add, observe_eq_ok h, Field.ownClause]
  simp only [Except.mapError, bind, Except.bind, source_eq]
  cases f.clause f.role f.generation settings.stringSize <;> rfl

/-- A second key is refused before its clause is written. -/
theorem add_second {key : PrimaryKey} (hf : f.isPrimaryKey = true) (hk : d.key = some key) :
    d.add settings f =
      .error (.declaration ⟨.secondKey key.name, none, some (.str f.name)⟩) := by
  simp [add, PrimaryKey.observe, hf, hk, Except.mapError, bind, Except.bind]

/-- What adding a field can do, if it does not fail. -/
theorem add_eq_ok (hadd : d.add settings f = .ok next) :
    (f.isPrimaryKey = true → d.key = none) ∧
      ∃ clause, f.ownClause settings = .ok clause ∧ next = d.extend f clause := by
  by_cases h : f.isPrimaryKey = true → d.key = none
  · rw [add_eq_map h] at hadd
    cases hc : f.ownClause settings with
    | error e => simp [hc, Except.map] at hadd
    | ok clause =>
      simp only [hc, Except.map, Except.ok.injEq] at hadd
      exact ⟨h, clause, rfl, hadd.symm⟩
  · obtain ⟨hf, hk⟩ := Classical.not_imp.mp h
    obtain ⟨key, hk⟩ := Option.ne_none_iff_exists'.mp hk
    rw [add_second hf hk] at hadd
    cases hadd

/-- Why adding a field fails: it is a second key, or its clause is refused. -/
theorem add_eq_error {e : Fault} (hadd : d.add settings f = .error e) :
    (∃ key, f.isPrimaryKey = true ∧ d.key = some key ∧
      e = .declaration ⟨.secondKey key.name, none, some (.str f.name)⟩) ∨
    ((f.isPrimaryKey = true → d.key = none) ∧ f.ownClause settings = .error e) := by
  by_cases h : f.isPrimaryKey = true → d.key = none
  · rw [add_eq_map h] at hadd
    cases hc : f.ownClause settings with
    | error e' =>
      simp only [hc, Except.map, Except.error.injEq] at hadd
      exact .inr ⟨h, by rw [hadd]⟩
    | ok clause => simp [hc, Except.map] at hadd
  -- the field is marked and there is a key, so the clause is not even looked at
  · obtain ⟨hf, hk⟩ := Classical.not_imp.mp h
    obtain ⟨key, hk⟩ := Option.ne_none_iff_exists'.mp hk
    rw [add_second hf hk] at hadd
    cases hadd
    exact .inl ⟨key, hf, hk, rfl⟩

/-! ## The step and the run -/

/-- A key is known exactly if a field is marked. -/
theorem Describes.key_eq_none_iff (h : d.Describes settings fs) :
    d.key = none ↔ ∀ g ∈ fs, g.isPrimaryKey = false := by
  simp [h.key]

/-- Arguments that describe several fields describe one field more after it is
added: only the entry that the field itself has made is taken back. -/
theorem create_add (a : Arguments) (f : Field) :
    (a.add f f.role f.generation).create =
      a.create ++ if !f.hasDefault && !f.isGeneratedKey then [f.name] else [] := by
  rw [Arguments.create_add, Field.isPassed_role]

theorem update_add (a : Arguments) (f : Field) :
    (a.add f f.role f.generation).update =
      a.update ++ if f.isPrimaryKey then [] else [f.name] := by
  rw [Arguments.update_add]
  cases hm : f.isPrimaryKey <;> simp [Field.role, hm]

/-- A field keeps the description: the draft then describes one field more. -/
theorem Describes.add (h : d.Describes settings fs) (hadd : d.add settings f = .ok next) :
    next.Describes settings (fs ++ [f]) := by
  obtain ⟨hkey, clause, hclause, rfl⟩ := add_eq_ok hadd
  constructor
  case marked =>
    -- a field that is marked is added only while there is no key, so while none is marked
    cases hm : f.isPrimaryKey with
    | false => simpa [hm] using h.marked
    | true =>
      have hnone := h.key_eq_none_iff.mp (hkey hm)
      have hfs : fs.filter (·.isPrimaryKey) = [] := by simpa using hnone
      simp [hfs, hm]
  case key =>
    cases hm : f.isPrimaryKey with
    | false => simp [extend, hm, h.key, List.find?_append]
    | true =>
      have hnone := h.key_eq_none_iff.mp (hkey hm)
      have hfs : fs.find? (·.isPrimaryKey) = none := by simpa using hnone
      simp [extend, hm, List.find?_append, hfs]
  case create =>
    simp only [extend, create_add, h.create, List.filter_append, List.map_append]
    cases hc : !f.hasDefault && !f.isGeneratedKey <;> simp [hc]
  case update =>
    simp only [extend, update_add, h.update, List.filter_append, List.map_append]
    cases hm : f.isPrimaryKey <;> simp [hm]
  case clauses => exact List.rel_append h.clauses (.cons hclause .nil)
  case planned => simp [extend, h.planned]

section Advance

variable {α : Type} {extract : α → Except Fault Field}

/-- A run over fields that all pass keeps the description: the draft then describes
all of them. The induction is on the fields still to come, so the fields that the
draft already has are left general. -/
theorem Describes.advance {xs : List α} (h : d.Describes settings fs)
    (hrun : d.advance settings extract xs = (next, none)) :
    ∃ gs, List.Forall₂ (fun x g => extract x = .ok g) xs gs ∧
      next.Describes settings (fs ++ gs) := by
  induction xs generalizing d fs with
  | nil =>
    simp only [Draft.advance, Prod.mk.injEq, and_true] at hrun
    exact ⟨[], .nil, by simpa [← hrun] using h⟩
  | cons x xs ih =>
    rw [Draft.advance] at hrun
    cases hx : extract x with
    | error e => simp [hx] at hrun
    | ok f =>
      cases hadd : d.add settings f with
      | error e => simp [hx, hadd] at hrun
      | ok mid =>
        simp only [hx, hadd] at hrun
        obtain ⟨gs, hgs, hnext⟩ := ih (h.add hadd) hrun
        exact ⟨f :: gs, .cons hx hgs, by simpa using hnext⟩

/-- A run over fields that stops has passed the fields in front, and stops at the
next one: that cannot be extracted, or cannot be added. -/
theorem Describes.advance_stopped {xs : List α} {e : Fault} (h : d.Describes settings fs)
    (hrun : d.advance settings extract xs = (next, some e)) :
    ∃ pre x post gs, xs = pre ++ x :: post ∧
      List.Forall₂ (fun x g => extract x = .ok g) pre gs ∧
      next.Describes settings (fs ++ gs) ∧
      (extract x = .error e ∨ ∃ f, extract x = .ok f ∧ next.add settings f = .error e) := by
  induction xs generalizing d fs with
  -- the fields that the draft has are left general: a field that is added is one of them in the
  -- next step
  | nil => simp [Draft.advance] at hrun
  | cons x xs ih =>
    rw [Draft.advance] at hrun
    cases hx : extract x with
    | error e' =>
      simp only [hx, Prod.mk.injEq, Option.some.injEq] at hrun
      obtain ⟨rfl, rfl⟩ := hrun
      exact ⟨[], x, xs, [], rfl, .nil, by simpa using h, .inl hx⟩
    | ok f =>
      cases hadd : d.add settings f with
      | error e' =>
        simp only [hx, hadd, Prod.mk.injEq, Option.some.injEq] at hrun
        obtain ⟨rfl, rfl⟩ := hrun
        -- the draft is left as it was, so it still describes the fields in front
        exact ⟨[], x, xs, [], rfl, .nil, by simpa using h, .inr ⟨f, hx, hadd⟩⟩
      | ok mid =>
        simp only [hx, hadd] at hrun
        obtain ⟨pre, y, post, gs, rfl, hgs, hnext, hstop⟩ := ih (h.add hadd) hrun
        exact ⟨x :: pre, y, post, f :: gs, rfl, .cons hx hgs, by simpa using hnext, hstop⟩

end Advance

end Draft

end Relvar
