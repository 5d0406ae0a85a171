/-
Registries of items. The items of a list or a tuple are registered one after another. An item that
is nothing is passed over. Each other one has to declare a model whose name is not taken; the
first that does not ends it all with its fault. So what is registered are the models of the items
that are something, and that is one for each item exactly if none of them is nothing.
-/
import Relvar.Catalogue
import Relvar.Proofs.Declaration.Refusal
import Relvar.Proofs.Registration

set_option autoImplicit false

namespace Relvar

namespace Registry

open Run (Answers)

/-! ## One item -/

/-- An item declares a model. No name is given for it. -/
def Declares (x : Value) (d : ModelDecl) : Prop := ModelDecl.ofSource x .null = .ok d

/-- The registry with the model that an item declares. -/
def enter (r : Registry) (x : Value) : Except Fault Registry :=
  ModelDecl.ofSource x .null >>= r.add

/-- Why an item is not registered: it declares no model, or the name of its model is taken. -/
inductive Fails (r : Registry) (x : Value) : Fault → Prop
  | undeclared {e : Fault} (source : ModelDecl.ofSource x .null = .error e) : Fails r x e
  | taken {d : ModelDecl} (declares : Declares x d) (taken : ¬ r.IsFree d.name) :
      Fails r x (.declaration ⟨.registeredBefore, some d.name, none⟩)

section

variable {r next : Registry} {x : Value} {d : ModelDecl} {e : Fault}

theorem register_enters (r : Registry) (h : x ≠ .null) :
    (r.register x .null).Answers (r.enter x) := by
  have hadd (d : ModelDecl) : (r.add d).bind .ok = r.add d := by cases r.add d <;> rfl
  have hanswer := r.register_answers .null h
  simp only [hadd] at hanswer
  exact hanswer

theorem enter_eq_ok :
    r.enter x = .ok next ↔ ∃ d, Declares x d ∧ r.IsFree d.name ∧ next = r ++ [d] := by
  rw [enter, Except.bind_eq_ok]
  refine exists_congr fun d => and_congr_right fun _ => ?_
  by_cases hfree : r.IsFree d.name
  · rw [add_of_isFree hfree]
    simp [hfree, eq_comm]
  · rw [add_of_not_isFree hfree]
    simp [hfree]

theorem enter_eq_error : r.enter x = .error e ↔ Fails r x e := by
  rw [enter, Except.bind_eq_error]
  constructor
  · rintro (h | ⟨d, hd, h⟩)
    · exact .undeclared h
    · by_cases hfree : r.IsFree d.name
      · rw [add_of_isFree hfree] at h
        cases h
      · rw [add_of_not_isFree hfree] at h
        obtain rfl := Except.error.inj h
        exact .taken hd hfree
  · intro h
    cases h with
    | undeclared source => exact .inl source
    | taken declares taken => exact .inr ⟨_, declares, add_of_not_isFree taken⟩

/-- A model has a free name if it comes behind models with names that differ. -/
theorem distinct_append_cons {ds : Registry} (h : Distinct (r ++ d :: ds).names) :
    r.IsFree d.name := by
  rw [names, List.map_append, Distinct, List.pairwise_append] at h
  exact fun n hn => h.2.2 n hn d.name List.mem_cons_self

/-- An item fails with a refusal, unless it is a record class that is not valid. -/
theorem Fails.fault (h : Fails r x e) :
    (∃ refusal, e = .declaration refusal) ∨ ∃ c i, x = .recordClass c ∧ e = .invalid i := by
  cases h with
  | taken declares taken => exact .inl ⟨_, rfl⟩
  | undeclared source =>
    cases ModelDecl.undeclared_ofSource source with
    | refused code => exact .inl ⟨_, rfl⟩
    | invalid i =>
      refine .inr ?_
      by_contra hclass
      have hplain : ∀ c, x ≠ .recordClass c := fun c hc => hclass ⟨c, i, hc, rfl⟩
      -- Without a name a list or a mapping is refused before its fields are looked at.
      have hunkeyed := (ModelDecl.sources_taken x .null hplain (.inl rfl)).2.2.mp ⟨i, source⟩
      cases hunkeyed.1

end

/-! ## Items one after another -/

/-- The items that are something. -/
def given (xs : List Value) : List Value := xs.filterMap Value.given?

theorem registerAll_enters (r : Registry) (xs : List Value) :
    (r.registerAll xs).Answers ((given xs).foldlM enter r) := by
  induction xs generalizing r with
  | nil => exact Answers.pure r
  | cons x xs ih =>
    by_cases hx : x = .null
    · subst hx
      exact (Answers.pure r).after (ih r)
    · have hgiven : given (x :: xs) = x :: given xs :=
        List.filterMap_cons_some (Value.given?_of_ne_null hx)
      rw [hgiven, List.foldlM_cons]
      exact (r.register_enters hx).bind ih

section

variable {gs : List Value} {r last : Registry} {e : Fault}

/-- Items that are all entered declare the models that are added, under names that differ. -/
theorem foldlM_enter_eq_ok (hr : Distinct r.names) : gs.foldlM enter r = .ok last ↔
    ∃ ds, last = r ++ ds ∧ List.Forall₂ Declares gs ds ∧ Distinct last.names := by
  induction gs generalizing r with
  | nil =>
    constructor
    · intro h
      obtain rfl := Except.ok.inj h
      exact ⟨[], (List.append_nil r).symm, .nil, hr⟩
    · rintro ⟨ds, rfl, hds, -⟩
      obtain rfl := List.forall₂_nil_left_iff.mp hds
      rw [List.append_nil]
      rfl
  | cons x gs ih =>
    rw [List.foldlM_cons]
    constructor
    · intro h
      obtain ⟨next, hnext, h⟩ := Except.bind_eq_ok.mp h
      obtain ⟨d, hd, hfree, rfl⟩ := enter_eq_ok.mp hnext
      obtain ⟨ds, rfl, hds, hlast⟩ := (ih (distinct_append_singleton hr hfree)).mp h
      exact ⟨d :: ds, List.append_assoc r [d] ds, .cons hd hds, hlast⟩
    · rintro ⟨ds, rfl, hds, hlast⟩
      obtain ⟨d, ds, hd, hrest, rfl⟩ := List.forall₂_cons_left_iff.mp hds
      have hfree := distinct_append_cons hlast
      refine Except.bind_eq_ok.mpr ⟨r ++ [d], enter_eq_ok.mpr ⟨d, hd, hfree, rfl⟩, ?_⟩
      refine (ih (distinct_append_singleton hr hfree)).mpr ⟨ds, ?_, hrest, hlast⟩
      exact (List.append_assoc r [d] ds).symm

end

/-- The registry of items: each declares a model of it, in order, and their names differ. -/
structure Enrolls (gs : List Value) (r : Registry) : Prop where
  declares : List.Forall₂ Declares gs r
  distinct : Distinct r.names

/-- Items end with a fault: one of them fails behind items that make a registry. -/
inductive Stops (gs : List Value) (e : Fault) : Prop
  | intro {pre post : List Value} {x : Value} {r : Registry} (split : gs = pre ++ x :: post)
      (before : Enrolls pre r) (fails : Fails r x e)

/-- How registering items ends. -/
structure Registers (xs : List Value) (outcome : Except Fault Registry) : Prop where
  /-- There is a registry exactly if it is the one of the items that are something. -/
  enrolls : ∀ r, outcome = .ok r ↔ Enrolls (given xs) r
  /-- There is a fault exactly if it is the one of the first of them that fails. -/
  stops : ∀ e, outcome = .error e ↔ Stops (given xs) e
  /-- A registry has the model of each item in its place exactly if no item is nothing. -/
  complete : ∀ r, outcome = .ok r → (List.Forall₂ Declares xs r ↔ ∀ x ∈ xs, x ≠ .null)
  /-- A fault is a refusal, unless it is that of a record class which is not valid. -/
  refuses : ∀ e, outcome = .error e →
    (∃ refusal, e = .declaration refusal) ∨ ∃ c i, .recordClass c ∈ xs ∧ e = .invalid i

section

variable {xs gs : List Value} {r : Registry} {e : Fault}

theorem enrolls_iff : gs.foldlM enter [] = .ok r ↔ Enrolls gs r := by
  have hnil : Distinct (names []) := List.Pairwise.nil
  rw [foldlM_enter_eq_ok hnil]
  constructor
  · rintro ⟨ds, rfl, hds, hdistinct⟩
    exact ⟨hds, hdistinct⟩
  · rintro ⟨hds, hdistinct⟩
    exact ⟨r, rfl, hds, hdistinct⟩

theorem stops_iff : gs.foldlM enter [] = .error e ↔ Stops gs e := by
  rw [Except.foldlM_eq_error]
  constructor
  · rintro ⟨pre, x, post, r, hsplit, hpre, hx⟩
    exact ⟨hsplit, enrolls_iff.mp hpre, enter_eq_error.mp hx⟩
  · rintro ⟨hsplit, hpre, hx⟩
    exact ⟨_, _, _, _, hsplit, enrolls_iff.mpr hpre, enter_eq_error.mpr hx⟩

theorem mem_of_mem_given {x : Value} (h : x ∈ given xs) : x ∈ xs := by
  obtain ⟨y, hy, hx⟩ := List.mem_filterMap.mp h
  cases y <;> cases hx <;> exact hy

/-- Nothing declares no model. -/
theorem Declares.ne_null {x : Value} {d : ModelDecl} (h : Declares x d) : x ≠ .null := by
  rintro rfl
  cases h

theorem given_of_ne_null (h : ∀ x ∈ xs, x ≠ .null) : given xs = xs := by
  rw [given, List.filterMap_congr fun x hx => Value.given?_of_ne_null (h x hx)]
  exact List.filterMap_some

theorem Enrolls.complete (h : Enrolls (given xs) r) :
    List.Forall₂ Declares xs r ↔ ∀ x ∈ xs, x ≠ .null := by
  constructor
  · intro hall x hx
    obtain ⟨d, -, hd⟩ := forall₂_mem_left hall hx
    exact hd.ne_null
  · intro hxs
    rw [← given_of_ne_null hxs]
    exact h.declares

/-- Items are registered in every run that registers them. -/
theorem registers_of_answers {m : Run Registry} (h : m.Answers ((given xs).foldlM enter []))
    (s : Session) : Registers xs (m.run s).1 := by
  rw [h.outcome s]
  refine ⟨fun r => enrolls_iff, fun e => stops_iff, fun r hr => (enrolls_iff.mp hr).complete,
    fun e he => ?_⟩
  obtain ⟨hsplit, -, hfails⟩ := stops_iff.mp he
  refine hfails.fault.imp id ?_
  rintro ⟨c, i, rfl, rfl⟩
  exact ⟨c, i, mem_of_mem_given (by simp [hsplit]), rfl⟩

end

/-! ## Values and modules -/

theorem ofValue_enters {v : Value} {xs : List Value} (hv : v = .list xs ∨ v = .tuple xs) :
    (ofValue v).Answers ((given xs).foldlM enter []) := by
  rcases hv with rfl | rfl <;> cases xs with
  | nil => exact Answers.pure []
  | cons x xs => exact registerAll_enters [] (x :: xs)

theorem load_enters {c : Catalogue} {target : String} {v : Value} {xs : List Value}
    (h : c.item target = .ok v) (hv : v = .list xs ∨ v = .tuple xs) :
    (c.load target).Answers ((given xs).foldlM enter []) := by
  have hvalue := ofValue_enters hv
  rw [Catalogue.load, h]
  rcases hv with rfl | rfl
  · exact (Answers.ofExcept _).after hvalue
  · exact (Answers.ofExcept _).after hvalue

/-- **Registries of items.** Whatever the items of a list or a tuple are, a registry that is made
of them, or loaded from a module that has them under a name, has the models of those that are
something, in order and under names that differ, or ends with the fault of the first of them that
declares no model with a free name. It has one model for each item exactly if none is nothing. -/
theorem items_registered (xs : List Value) (v : Value) (hv : v = .list xs ∨ v = .tuple xs)
    (s : Session) :
    Registers xs ((ofValue v).run s).1 ∧
      ∀ (c : Catalogue) (target : String), c.item target = .ok v →
        Registers xs ((c.load target).run s).1 :=
  ⟨registers_of_answers (ofValue_enters hv) s,
    fun _ _ h => registers_of_answers (load_enters h hv) s⟩

/-- Items of which the second is nothing. -/
def modelItems : List Value := [.model visitsDecl, .null, .model twoKeysDecl]

/-- A module with a list of them. -/
def modelsCatalogue : Catalogue := [⟨"app.models", [("MODELS", .list modelItems)]⟩]

theorem items_registered_models :
    (Value.list modelItems = .list modelItems ∨ Value.list modelItems = .tuple modelItems) ∧
      modelsCatalogue.item "app.models:MODELS" = .ok (.list modelItems) ∧
      Registers modelItems ((ofValue (.list modelItems)).run calmSession).1 ∧
      Registers modelItems ((modelsCatalogue.load "app.models:MODELS").run calmSession).1 := by
  have hitem : modelsCatalogue.item "app.models:MODELS" = .ok (.list modelItems) := rfl
  obtain ⟨hvalue, hload⟩ := items_registered modelItems (.list modelItems) (.inl rfl) calmSession
  exact ⟨.inl rfl, hitem, hvalue, hload modelsCatalogue "app.models:MODELS" hitem⟩

/-- A list of nothing but an item that is nothing makes a registry without models. -/
theorem ofValue_nothing :
    ((ofValue (.list [.null])).run calmSession).1 = .ok [] ∧
      ¬ ((∃ refusal, ((ofValue (.list [.null])).run calmSession).1 =
          .error (.declaration refusal)) ∨
        ∃ r, ((ofValue (.list [.null])).run calmSession).1 = .ok r ∧
          List.Forall₂ Declares [.null] r) := by
  have hrun : ((ofValue (.list [.null])).run calmSession).1 = .ok [] := rfl
  refine ⟨hrun, ?_⟩
  rintro (⟨refusal, h⟩ | ⟨r, -, hall⟩)
  · rw [hrun] at h
    cases h
  · obtain ⟨d, _, hd, -⟩ := List.forall₂_cons_left_iff.mp hall
    exact hd.ne_null rfl

end Registry

end Relvar
