/-
What the arguments are after several fields. A field with a default takes back the last entry of
a list, whatever entry that is. It is always the field's own: an entry is taken back only if one
was made in the same step, so no role, key source or repeated name makes a field take back the
entry of another. Adding a field is therefore appending its name or nothing, and the arguments are
the names of the fields that pass a test of their own, in order.
-/
import Relvar.Arguments

set_option autoImplicit false

namespace Relvar.Arguments

/-! ## One field -/

section Add

variable (a : Arguments) (f : Field) (role : Role) (source : Option KeySource)

/-- A caller passes every column, and every key but those that the database makes. -/
theorem isPassed_iff :
    isPassed role source = true ↔
      role = .column ∨ source ≠ some .auto ∧ source ≠ some .serial := by
  cases role with
  | column => simp [isPassed]
  | primaryKey =>
    cases source with
    | none => simp [isPassed]
    | some s => cases s <;> simp [isPassed, KeySource.isGenerated]

theorem create_add :
    (a.add f role source).create =
      a.create ++ if !f.hasDefault && isPassed role source then [f.name] else [] := by
  rw [add]
  cases isPassed role source with
  | false => simp
  | true =>
    -- the entry that a default takes back is the one that was just made
    cases f.hasDefault <;> simp

theorem update_add :
    (a.add f role source).update = a.update ++ if role = .column then [f.name] else [] := by
  cases role <;> simp [add]

end Add

/-! ## Several fields -/

/-- A field as it is added. Role and source are not tied to the field or to each other: a field
that is not marked may come as the key, several fields may, and a key may come without a source. -/
structure Addition where
  field : Field
  role : Role
  source : Option KeySource

namespace Addition

/-- The arguments after the addition. -/
def apply (c : Addition) (a : Arguments) : Arguments := a.add c.field c.role c.source

/-- Whether a caller who creates an instance passes the field: it has no default, and it is a
column or no key that the database makes. -/
def IsCreated (c : Addition) : Prop :=
  c.field.hasDefault = false ∧ (c.role = .column ∨ c.source ≠ some .auto ∧ c.source ≠ some .serial)

instance : DecidablePred IsCreated := fun c =>
  inferInstanceAs (Decidable (c.field.hasDefault = false ∧
    (c.role = .column ∨ c.source ≠ some .auto ∧ c.source ≠ some .serial)))

theorem isCreated_iff (c : Addition) :
    c.IsCreated ↔ (!c.field.hasDefault && isPassed c.role c.source) = true := by
  rw [Bool.and_eq_true, Bool.not_eq_true', isPassed_iff, IsCreated]

end Addition

/-- The arguments after several additions. -/
def addAll (cs : List Addition) : Arguments := cs.foldl (fun a c => c.apply a) empty

/-- The arguments keep their entries, in front, and have at most one more of them in each list,
which is a name. -/
structure Grows (name : String) (a b : Arguments) : Prop where
  create : b.create = a.create ∨ b.create = a.create ++ [name]
  update : b.update = a.update ∨ b.update = a.update ++ [name]

/-! ## The step and the run -/

theorem create_apply (a : Arguments) (c : Addition) :
    (c.apply a).create = a.create ++ if c.IsCreated then [c.field.name] else [] := by
  simp only [Addition.apply, create_add, c.isCreated_iff]

theorem update_apply (a : Arguments) (c : Addition) :
    (c.apply a).update = a.update ++ if c.role = .column then [c.field.name] else [] :=
  update_add a c.field c.role c.source

theorem append_ite_singleton (names : List String) (name : String) (p : Prop) [Decidable p] :
    (names ++ if p then [name] else []) = names ∨
      (names ++ if p then [name] else []) = names ++ [name] := by
  split
  · exact .inr rfl
  · exact .inl (List.append_nil names)

/-- No addition takes back what is there. -/
theorem grows_apply (a : Arguments) (c : Addition) : Grows c.field.name a (c.apply a) where
  create := create_apply a c ▸ append_ite_singleton _ _ _
  update := update_apply a c ▸ append_ite_singleton _ _ _

/-- If every addition that passes a test appends its name to a list, a run appends the names of
those that pass. What is in the list before is left general, because each addition of the run
starts where the one before it ended. -/
theorem part_foldl (part : Arguments → List String) (p : Addition → Prop) [DecidablePred p]
    (step : ∀ (a : Arguments) (c : Addition),
      part (c.apply a) = part a ++ if p c then [c.field.name] else [])
    (cs : List Addition) (a : Arguments) :
    part (cs.foldl (fun a c => c.apply a) a) =
      part a ++ (cs.filter (p ·)).map (·.field.name) := by
  induction cs generalizing a with
  | nil => simp
  | cons c cs ih =>
    rw [List.foldl_cons, ih, step, List.append_assoc]
    by_cases hc : p c
    · rw [if_pos hc, List.filter_cons_of_pos (by simpa using hc)]
      rfl
    · rw [if_neg hc, List.filter_cons_of_neg (by simpa using hc)]
      rfl

/-- **Arguments in order.** Whatever is added, in whatever roles and with whatever sources: no
addition takes back what was there before it, and each makes at most an entry of its own in each
list. An instance is created with the fields that have no default and are columns or no keys that
the database makes, and it is updated with the columns, both in the order of the additions. -/
theorem added_in_order (cs : List Addition) :
    (∀ i : Fin cs.length,
      Grows cs[i].field.name (addAll (cs.take i)) (addAll (cs.take (i + 1)))) ∧
    (addAll cs).create = (cs.filter (·.IsCreated)).map (·.field.name) ∧
    (addAll cs).update = (cs.filter (·.role = .column)).map (·.field.name) := by
  refine ⟨fun i => ?_, part_foldl create _ create_apply cs empty,
    part_foldl update _ update_apply cs empty⟩
  have hstep : addAll (cs.take (i + 1)) = cs[i].apply (addAll (cs.take i)) := by
    rw [List.take_succ_eq_append_getElem i.isLt, addAll, List.foldl_append]
    rfl
  rw [hstep]
  exact grows_apply _ _

/-- A key without a source, a key that the database makes, and two columns with the name of the
first key, the last of them with a default: it takes back its own entry, and the column before it
keeps the entry of the same name. -/
example :
    let note := Field.plain "note" .text false
    let dated := { note with hasDefault := true, default := some (.str "now") }
    ((((empty.add note .primaryKey none).add (.plain "id" .serial false) .primaryKey
      (some .serial)).add note .column none).add dated .column (some .auto)) =
      ⟨["note", "note"], ["note", "note"]⟩ := by
  decide

end Relvar.Arguments
