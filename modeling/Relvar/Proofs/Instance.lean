/-
What is read of an instance. The values of several names are read in order, and the first
name that there is no value for ends the reading; a null is a value like any other.
-/
import Relvar.Instance
import Relvar.Proofs.Outcome

set_option autoImplicit false

namespace Relvar.Value

/-- An instance that has a value for each of several names. -/
def Carries (row : Value) (names : List String) : Prop :=
  ∀ name ∈ names, (row.fieldValue? name).isSome = true

instance (row : Value) (names : List String) : Decidable (row.Carries names) :=
  inferInstanceAs (Decidable (∀ name ∈ names, (row.fieldValue? name).isSome = true))

/-- Names with the values that an instance has for them. -/
def Pairs (row : Value) (names : List String) (values : List (String × Value)) : Prop :=
  List.Forall₂ (fun name e => row.fieldValue? name = some e.2 ∧ e.1 = name) names values

/-- The first of several names that an instance has no value for. -/
def Lacks (row : Value) (names : List String) (name : String) : Prop :=
  ∃ before behind, names = before ++ name :: behind ∧ row.Carries before ∧
    row.fieldValue? name = none

/-- The refusal of an instance that has no value for a field of a model. -/
def lacking (model : Option Value) (name : String) : Fault :=
  .binding ⟨.noValue name, model, some (.str name)⟩

variable {row v : Value} {name : String} {names : List String} {model : Option Value} {e : Fault}

/-! ## Names and values -/

theorem carries_cons : row.Carries (name :: names) ↔
    (row.fieldValue? name).isSome = true ∧ row.Carries names :=
  List.forall_mem_cons

theorem carries_concat : row.Carries (names ++ [name]) ↔
    row.Carries names ∧ (row.fieldValue? name).isSome = true := by
  simp [Carries, or_imp, forall_and]

/-- An instance carries values for names exactly if these can be paired. -/
theorem carries_iff : row.Carries names ↔ ∃ values, row.Pairs names values := by
  unfold Pairs
  rw [exists_forall₂_iff]
  refine forall₂_congr fun name _ => ?_
  rw [Option.isSome_iff_exists]
  constructor
  · rintro ⟨v, hv⟩
    exact ⟨(name, v), hv, rfl⟩
  · rintro ⟨e, he, -⟩
    exact ⟨e.2, he⟩

theorem not_lacks_nil : ¬ row.Lacks [] name := by
  rintro ⟨before, behind, hsplit, -⟩
  simp at hsplit

/-- What an instance lacks among names it lacks at once, or after the first of them. -/
theorem lacks_cons {n : String} : row.Lacks (n :: names) name ↔
    (row.fieldValue? n = none ∧ name = n) ∨
      ((row.fieldValue? n).isSome = true ∧ row.Lacks names name) := by
  constructor
  · rintro ⟨before, behind, hsplit, hbefore, hnone⟩
    -- what is lacked is the first name, or stands behind names that are carried
    cases before with
    | nil =>
      obtain ⟨rfl, -⟩ := List.cons.inj hsplit
      exact .inl ⟨hnone, rfl⟩
    | cons m before =>
      obtain ⟨rfl, rfl⟩ := List.cons.inj hsplit
      obtain ⟨hn, hbefore⟩ := carries_cons.mp hbefore
      exact .inr ⟨hn, before, behind, rfl, hbefore, hnone⟩
  · rintro (⟨hnone, rfl⟩ | ⟨hn, before, behind, rfl, hbefore, hnone⟩)
    · exact ⟨[], names, rfl, by simp [Carries], hnone⟩
    · exact ⟨n :: before, behind, rfl, carries_cons.mpr ⟨hn, hbefore⟩, hnone⟩

/-- The last of several names is the first to be lacked only if all others are there. -/
theorem lacks_concat {n : String} : row.Lacks (names ++ [n]) name ↔
    row.Lacks names name ∨ (row.Carries names ∧ row.fieldValue? n = none ∧ name = n) := by
  induction names with
  | nil =>
    rw [List.nil_append, lacks_cons]
    simp [not_lacks_nil, Carries]
  | cons m names ih =>
    rw [List.cons_append, lacks_cons, lacks_cons, ih, carries_cons]
    tauto

/-! ## Reading -/

theorem readField_eq_ok : row.readField name model = .ok v ↔ row.fieldValue? name = some v := by
  unfold readField
  cases row.fieldValue? name <;> simp

theorem readField_eq_error : row.readField name model = .error e ↔
    row.fieldValue? name = none ∧ e = lacking model name := by
  unfold readField
  cases row.fieldValue? name <;> simp [lacking, eq_comm]

theorem readFields_eq_mapM (names : List String) : row.readFields model names =
    names.mapM fun name => (row.readField name model).map (name, ·) := by
  refine Except.eq_mapM (row.readFields model) rfl (fun name names => ?_) names
  rw [readFields]
  cases row.readField name model <;> rfl

theorem readFields_eq_ok {values : List (String × Value)} :
    row.readFields model names = .ok values ↔ row.Pairs names values := by
  have hpair : ∀ name e, (row.readField name model).map (name, ·) = .ok e ↔
      row.fieldValue? name = some e.2 ∧ e.1 = name := by
    rintro name ⟨n, v⟩
    rw [Except.map_eq_ok]
    simp only [readField_eq_ok, Prod.mk.injEq]
    constructor
    · rintro ⟨_, hv, rfl, rfl⟩
      exact ⟨hv, rfl⟩
    · rintro ⟨hv, rfl⟩
      exact ⟨v, hv, rfl, rfl⟩
  rw [readFields_eq_mapM, Except.mapM_eq_ok]
  simp only [hpair, Pairs]

theorem readFields_eq_error : row.readFields model names = .error e ↔
    ∃ name, row.Lacks names name ∧ e = lacking model name := by
  rw [readFields_eq_mapM, Except.mapM_eq_error]
  simp only [Except.map_eq_error, readField_eq_error]
  constructor
  · rintro ⟨before, name, behind, rfl, hbefore, hnone, rfl⟩
    refine ⟨name, ⟨before, behind, rfl, fun n hn => ?_, hnone⟩, rfl⟩
    obtain ⟨_, hread⟩ := hbefore n hn
    obtain ⟨v, hv, -⟩ := Except.map_eq_ok.mp hread
    rw [readField_eq_ok.mp hv]
    rfl
  · rintro ⟨name, ⟨before, behind, rfl, hbefore, hnone⟩, rfl⟩
    refine ⟨before, name, behind, rfl, fun n hn => ?_, hnone, rfl⟩
    obtain ⟨v, hv⟩ := Option.isSome_iff_exists.mp (hbefore n hn)
    exact ⟨_, Except.map_eq_ok.mpr ⟨v, readField_eq_ok.mpr hv, rfl⟩⟩

end Relvar.Value
