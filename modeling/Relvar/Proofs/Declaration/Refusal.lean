/-
Which sources stand for a declared model, and how the others are refused. A source that is no
record class is a declared model, or a list or a mapping under a name whose fields have one of
the shapes of fields. What has another shape is refused as such, with one exception: a tuple
may have all of the shape of a field, but modifiers with a key that spells no text. Its shape
is not looked at any further, so it is refused as a value that is not valid, and not for its
shape. The first field that is not declared decides.
-/
import Relvar.Proofs.Declaration.Mapping

set_option autoImplicit false

namespace Relvar

/-! ## The first of several -/

/-- Of several, the first that is not good is bad. -/
def FirstBad {α : Type} (good bad : α → Prop) (xs : List α) : Prop :=
  ∃ pre x post, xs = pre ++ x :: post ∧ (∀ y ∈ pre, good y) ∧ bad x

theorem firstBad_nil {α : Type} {good bad : α → Prop} : ¬ FirstBad good bad [] := by
  rintro ⟨pre, x, post, h, -⟩
  simp at h

theorem firstBad_cons {α : Type} {good bad : α → Prop} {x : α} {xs : List α} :
    FirstBad good bad (x :: xs) ↔ bad x ∨ good x ∧ FirstBad good bad xs := by
  constructor
  · rintro ⟨pre, y, post, hsplit, hpre, hy⟩
    cases pre with
    | nil =>
      obtain ⟨rfl, -⟩ := List.cons.inj hsplit
      exact .inl hy
    | cons z pre =>
      obtain ⟨rfl, hxs⟩ := List.cons.inj hsplit
      rw [List.forall_mem_cons] at hpre
      exact .inr ⟨hpre.1, pre, y, post, hxs, hpre.2, hy⟩
  · rintro (hx | ⟨hx, pre, y, post, rfl, hpre, hy⟩)
    · exact ⟨[], x, xs, rfl, by simp, hx⟩
    · exact ⟨x :: pre, y, post, rfl, List.forall_mem_cons.mpr ⟨hx, hpre⟩, hy⟩

/-! ## Outcomes -/

/-- How something that should declare something is taken. It does if it is good, it is not valid
if it is bad, and otherwise it is refused as a declaration. -/
inductive Taken {α : Type} (refusal : DeclError → Prop) (good bad : Prop) : Except Fault α → Prop
  | declared (a : α) (fine : good) (whole : ¬ bad) : Taken refusal good bad (.ok a)
  | refused {e : DeclError} (amiss : ¬ good) (whole : ¬ bad) (told : refusal e) :
      Taken refusal good bad (.error (.declaration e))
  | invalid (i : Invalid) (amiss : ¬ good) (worse : bad) :
      Taken refusal good bad (.error (.invalid i))

namespace Taken

variable {α : Type} {refusal : DeclError → Prop} {good bad good' bad' : Prop}
  {r : Except Fault α}

theorem congr (h : Taken refusal good bad r) (hgood : good ↔ good') (hbad : bad ↔ bad') :
    Taken refusal good' bad' r := by
  rwa [← hgood, ← hbad]

theorem mono {refusal' : DeclError → Prop} (h : Taken refusal good bad r)
    (htold : ∀ e, refusal e → refusal' e) : Taken refusal' good bad r := by
  cases h with
  | declared a fine whole => exact .declared a fine whole
  | refused amiss whole told => exact .refused amiss whole (htold _ told)
  | invalid i amiss worse => exact .invalid i amiss worse

/-- One more in front of others is taken first. -/
theorem cons {rs : Except Fault (List α)} (h : Taken refusal good bad r)
    (hs : Taken refusal good' bad' rs) :
    Taken refusal (good ∧ good') (bad ∨ good ∧ bad')
      (do let a ← r; let as ← rs; return a :: as) := by
  cases h with
  | declared a fine whole =>
    cases hs with
    | declared as fine' whole' => exact .declared (a :: as) ⟨fine, fine'⟩ (by tauto)
    | refused amiss whole' told => exact .refused (by tauto) (by tauto) told
    | invalid i amiss worse => exact .invalid i (by tauto) (.inr ⟨fine, worse⟩)
  | refused amiss whole told => exact .refused (by tauto) (by tauto) told
  | invalid i amiss worse => exact .invalid i (by tauto) (.inl worse)

theorem exists_ok_iff (h : Taken refusal good bad r) : (∃ a, r = .ok a) ↔ good := by
  cases h <;> simp_all

theorem exists_refused_iff (h : Taken refusal good bad r) :
    (∃ e, r = .error (.declaration e) ∧ refusal e) ↔ ¬ good ∧ ¬ bad := by
  cases h <;> simp_all

theorem exists_invalid_iff (h : Taken refusal good bad r) :
    (∃ i, r = .error (.invalid i)) ↔ bad := by
  cases h <;> simp_all

end Taken

/-! ## Fields -/

namespace FieldDecl

/-- Modifiers whose keys spell text. -/
def Keyed (es : List (Value × Value)) : Prop := ∀ e ∈ es, ∃ s, e.1.spelledText = .ok s

/-- The shapes of a field in a list: a declared field, or a tuple of a name, a type and, unless
there are none, modifiers. -/
inductive IsItem : Value → Prop
  | declared (f : FieldDecl) : IsItem (.field f)
  | pair {name type : Value} (named : isName name = true) : IsItem (.tuple [name, type])
  | triple {name type : Value} {es : List (Value × Value)} (named : isName name = true)
      (keyed : Keyed es) : IsItem (.tuple [name, type, .dict es])

/-- A tuple with the shape of a field but for a key of its modifiers that spells no text. -/
inductive IsUnkeyedItem : Value → Prop
  | triple {name type : Value} {es : List (Value × Value)} (named : isName name = true)
      (unkeyed : ¬ Keyed es) : IsUnkeyedItem (.tuple [name, type, .dict es])

/-- The shapes of a field in a mapping, under its name: a declared field, a tuple that is an item
of a list with the name in front, or a type. -/
inductive IsEntry (key : Value) : Value → Prop
  | declared (named : isName key = true) (f : FieldDecl) : IsEntry key (.field f)
  | tuple {parts : List Value} (item : IsItem (.tuple (key :: parts))) :
      IsEntry key (.tuple parts)
  | bare {type : Value} (named : isName key = true) (undeclared : ∀ f, type ≠ .field f)
      (untupled : ∀ parts, type ≠ .tuple parts) : IsEntry key type

/-- An entry that is, with the key in front, a tuple with a key that spells no text. -/
inductive IsUnkeyedEntry (key : Value) : Value → Prop
  | tuple {parts : List Value} (item : IsUnkeyedItem (.tuple (key :: parts))) :
      IsUnkeyedEntry key (.tuple parts)

/-- A refusal for the shape of a field of a model. -/
def IsShapeRefusal (model : Value) (e : DeclError) : Prop :=
  e.cause.code = .unsupportedShape ∧ e.model = some model

variable {model name type key v : Value} {es : List (Value × Value)}

theorem IsItem.isName {parts : List Value} (h : IsItem (.tuple (key :: parts))) :
    FieldDecl.isName key = true := by
  cases h <;> assumption

theorem IsUnkeyedItem.isName {parts : List Value} (h : IsUnkeyedItem (.tuple (key :: parts))) :
    FieldDecl.isName key = true := by
  cases h
  assumption

theorem keyOffences_eq_nil (place : List Place) : keyOffences place es = [] ↔ Keyed es := by
  rw [keyOffences, List.filterMap_eq_nil_iff]
  refine forall₂_congr fun e _ => ?_
  cases e.1.spelledText <;> simp

/-- A declared field is built under text from modifiers that are looked at alone. -/
theorem ofValues_named {s : String} {modifiers : Value} (hname : name.asText? = some s)
    (hne : s ≠ "") :
    ofValues name type modifiers =
      ((checkModifiers [.name "modifiers"] modifiers).map fun ms => ⟨s, type, ms⟩).mapError
        (Invalid.mk "FieldDeclaration") := by
  simp only [ofValues, check, checkPart, Value.checkName_text _ hname, if_neg hne,
    List.nil_append]
  cases checkModifiers [.name "modifiers"] modifiers <;> rfl

/-- Whether modifiers are valid is a question of their keys alone. -/
theorem ofValues_taken {refusal : DeclError → Prop} (hname : isName name = true) :
    Taken refusal (Keyed es) (¬ Keyed es) ((ofValues name type (.dict es)).mapError .invalid) := by
  obtain ⟨s, hs, hne⟩ := asText?_of_isName hname
  have hkeys : (keyOffences [.name "modifiers"] es).isEmpty = true ↔ Keyed es :=
    List.isEmpty_iff.trans (keyOffences_eq_nil _)
  rw [ofValues_named hs hne]
  simp only [checkModifiers, Value.asMapping?]
  by_cases hkeyed : Keyed es
  · rw [if_pos (hkeys.mpr hkeyed)]
    exact .declared _ hkeyed (not_not_intro hkeyed)
  · rw [if_neg (mt hkeys.mp hkeyed)]
    exact .invalid _ hkeyed hkeyed

theorem refuse_taken {α : Type} {good bad : Prop} {field : Option Value} {c : Cause}
    (hcode : c.code = .unsupportedShape) (hgood : ¬ good) (hbad : ¬ bad) :
    Taken (IsShapeRefusal model) good bad (refuse model field c : Except Fault α) :=
  .refused hgood hbad ⟨hcode, rfl⟩

/-- A tuple of three is taken by its modifiers, if it starts with a name. -/
theorem ofTriple_taken (hname : isName name = true) {modifiers : Value} :
    Taken (IsShapeRefusal model) (IsItem (.tuple [name, type, modifiers]))
      (IsUnkeyedItem (.tuple [name, type, modifiers])) (ofTriple model name type modifiers) := by
  rw [ofTriple]
  split
  · next hmodifiers =>
    refine refuse_taken rfl ?_ ?_ <;> rintro ⟨⟩ <;> cases hmodifiers
  · next es hes =>
    obtain rfl : modifiers = .dict es := by
      cases modifiers <;> simp_all [Value.asMapping?]
    refine (ofValues_taken hname).congr ⟨.triple hname, ?_⟩ ⟨.triple hname, ?_⟩
    · rintro ⟨⟩
      assumption
    · rintro ⟨⟩
      assumption

theorem ofItem_taken (model v : Value) :
    Taken (IsShapeRefusal model) (IsItem v) (IsUnkeyedItem v) (ofItem model v) := by
  unfold ofItem
  split
  · next f => exact .declared f (.declared f) nofun
  · next name type =>
    split
    · next hname =>
      -- a pair is a triple without modifiers, so that no key of them can offend
      have hplain : Keyed [] := fun e he => absurd he List.not_mem_nil
      refine (ofTriple_taken hname).congr ?_ ?_
      · exact iff_of_true (.triple hname hplain) (.pair hname)
      · refine iff_of_false ?_ nofun
        rintro ⟨-, hunkeyed⟩
        exact hunkeyed hplain
    · next hname =>
      refine refuse_taken rfl ?_ nofun
      rintro ⟨⟩
      contradiction
  · next name type modifiers =>
    split
    · next hname => exact ofTriple_taken hname
    · next hname => refine refuse_taken rfl ?_ ?_ <;> rintro ⟨⟩ <;> contradiction
  · next hfield hpair htriple =>
    refine refuse_taken rfl ?_ ?_ <;> rintro ⟨⟩
    · exact hfield _ rfl
    · exact hpair _ _ rfl
    · exact htriple _ _ _ rfl
    · exact htriple _ _ _ rfl

theorem ofEntry_taken (model key v : Value) :
    Taken (IsShapeRefusal model) (IsEntry key v) (IsUnkeyedEntry key v) (ofEntry model key v) := by
  unfold ofEntry
  split
  · next hname =>
    split
    · next f => exact .declared f (.declared hname f) nofun
    · next parts =>
      refine (ofItem_taken model (.tuple (key :: parts))).congr ⟨.tuple, ?_⟩ ⟨.tuple, ?_⟩
      · intro hentry
        cases hentry with
        | tuple item => exact item
        | bare named undeclared untupled => exact absurd rfl (untupled parts)
      · rintro ⟨item⟩
        exact item
    · next hfield htuple =>
      -- whatever else stands there is a type, without modifiers
      have hplain : Keyed [] := fun e he => absurd he List.not_mem_nil
      refine (ofValues_taken hname).congr (iff_of_true hplain (.bare hname hfield htuple)) ?_
      refine iff_of_false (not_not_intro hplain) ?_
      rintro ⟨-⟩
      exact htuple _ rfl
  · next hname =>
    refine refuse_taken rfl ?_ ?_
    · intro hentry
      cases hentry with
      | declared named f => exact hname named
      | tuple item => exact hname item.isName
      | bare named => exact hname named
    · rintro ⟨item⟩
      exact hname item.isName

theorem ofItems_taken (model : Value) (items : List Value) :
    Taken (IsShapeRefusal model) (∀ v ∈ items, IsItem v) (FirstBad IsItem IsUnkeyedItem items)
      (ofItems model items) := by
  induction items with
  | nil => exact .declared [] (by simp) firstBad_nil
  | cons v items ih =>
    rw [List.forall_mem_cons, firstBad_cons]
    exact (ofItem_taken model v).cons ih

theorem ofEntries_taken (model : Value) (es : List (Value × Value)) :
    Taken (IsShapeRefusal model) (∀ e ∈ es, IsEntry e.1 e.2)
      (FirstBad (fun e => IsEntry e.1 e.2) (fun e => IsUnkeyedEntry e.1 e.2) es)
      (ofEntries model es) := by
  induction es with
  | nil => exact .declared [] (by simp) firstBad_nil
  | cons e es ih =>
    rw [List.forall_mem_cons, firstBad_cons]
    exact (ofEntry_taken model e.1 e.2).cons ih

end FieldDecl

/-! ## Sources -/

/-- A refusal of what can have no model's name: of an instance of a record class, or of fields
under no name. -/
def DeclError.IsNameless (e : DeclError) : Prop :=
  e.field = none ∧ (e.cause = .nameRequired ∨ ∃ kind, e.cause = .objectGiven kind)

namespace ModelDecl

open FieldDecl (IsItem IsUnkeyedItem IsEntry IsUnkeyedEntry IsShapeRefusal)

/-- The shapes of the fields of a model. -/
inductive IsFields : Value → Prop
  | list {items : List Value} (fields : ∀ v ∈ items, IsItem v) : IsFields (.list items)
  | tuple {items : List Value} (fields : ∀ v ∈ items, IsItem v) : IsFields (.tuple items)
  | mapping {es : List (Value × Value)} (fields : ∀ e ∈ es, IsEntry e.1 e.2) : IsFields (.dict es)

/-- Fields of which the first that is not shaped has a key that spells no text. -/
inductive IsUnkeyedFields : Value → Prop
  | list {items : List Value} (first : FirstBad IsItem IsUnkeyedItem items) :
      IsUnkeyedFields (.list items)
  | tuple {items : List Value} (first : FirstBad IsItem IsUnkeyedItem items) :
      IsUnkeyedFields (.tuple items)
  | mapping {es : List (Value × Value)}
      (first : FirstBad (fun e => IsEntry e.1 e.2) (fun e => IsUnkeyedEntry e.1 e.2) es) :
      IsUnkeyedFields (.dict es)

/-- The shapes of a source that is no record class: a declared model, or the fields of one with
a name for it. -/
def IsShaped (name source : Value) : Prop :=
  (∃ m, source = .model m) ∨ name.isTruthy = true ∧ IsFields source

/-- The fields of a model with a name for it, but with a key that spells no text. -/
def IsUnkeyed (name source : Value) : Prop := name.isTruthy = true ∧ IsUnkeyedFields source

/-- A refusal for the shape of a source, which names the model if there is a name for it. -/
def IsSourceRefusal (name : Value) (e : DeclError) : Prop :=
  e.cause.code = .unsupportedShape ∧ (e.model = some name ∨ e.IsNameless)

variable {name source : Value}

theorem fieldsOf_taken (name source : Value) :
    Taken (IsShapeRefusal name) (IsFields source) (IsUnkeyedFields source)
      (fieldsOf name source) := by
  unfold fieldsOf
  split
  · next es =>
    refine (FieldDecl.ofEntries_taken name es).congr ⟨.mapping, ?_⟩ ⟨.mapping, ?_⟩ <;>
      (rintro ⟨⟩; assumption)
  · next items =>
    refine (FieldDecl.ofItems_taken name items).congr ⟨.list, ?_⟩ ⟨.list, ?_⟩ <;>
      (rintro ⟨⟩; assumption)
  · next items =>
    refine (FieldDecl.ofItems_taken name items).congr ⟨.tuple, ?_⟩ ⟨.tuple, ?_⟩ <;>
      (rintro ⟨⟩; assumption)
  · next hdict hlist htuple =>
    refine FieldDecl.refuse_taken rfl ?_ ?_ <;> intro hfields <;> cases hfields with
    | list => exact hlist _ rfl
    | tuple => exact htuple _ rfl
    | mapping => exact hdict _ rfl

theorem ofFields_taken (source : Value) (hname : name = .null ∨ ∃ n, name.asText? = some n) :
    Taken (IsSourceRefusal name) (name.isTruthy = true ∧ IsFields source)
      (IsUnkeyed name source) (ofFields source name) := by
  unfold ofFields
  by_cases htruthy : name.isTruthy = true
  · obtain ⟨n, hn⟩ : ∃ n, name.checkName [.name "name"] = .ok n := by
      rcases hname with rfl | ⟨n, hn⟩
      · cases htruthy
      · exact Value.checkName_of_asText? (Option.isSome_iff_exists.mpr ⟨n, hn⟩) htruthy
    simp only [IsUnkeyed, htruthy, true_and, if_true]
    -- the fields decide: a name for them is text, and stands for the model as it is
    show Taken _ _ _ (fieldsOf name source >>= fun fs => named name fs)
    have hfields := fieldsOf_taken name source
    generalize fieldsOf name source = r at hfields ⊢
    cases hfields with
    | declared fs fine whole =>
      show Taken _ _ _ (named name fs)
      rw [named_eq, hn]
      exact .declared _ fine whole
    | refused amiss whole told => exact .refused amiss whole ⟨told.1, .inl told.2⟩
    | invalid i amiss worse => exact .invalid i amiss worse
  · rw [if_neg htruthy]
    exact .refused (fun h => htruthy h.1) (fun h => htruthy h.1) ⟨rfl, .inr ⟨rfl, .inl rfl⟩⟩

theorem ofSource_taken (hclass : ∀ c, source ≠ .recordClass c)
    (hname : name = .null ∨ ∃ n, name.asText? = some n) :
    Taken (IsSourceRefusal name) (IsShaped name source) (IsUnkeyed name source)
      (ofSource source name) := by
  have hobject : ∀ kind, IsSourceRefusal name ⟨.objectGiven kind, name.given?, none⟩ :=
    fun kind => ⟨rfl, .inr ⟨rfl, .inr ⟨kind, rfl⟩⟩⟩
  cases source with
  | model m => exact .declared m (.inl ⟨m, rfl⟩) (by rintro ⟨-, ⟨⟩⟩)
  | recordClass c => exact absurd rfl (hclass c)
  | object kind attributes =>
    exact .refused (by rintro (⟨m, ⟨⟩⟩ | ⟨-, ⟨⟩⟩)) (by rintro ⟨-, ⟨⟩⟩) (hobject kind)
  | field f =>
    exact .refused (by rintro (⟨m, ⟨⟩⟩ | ⟨-, ⟨⟩⟩)) (by rintro ⟨-, ⟨⟩⟩) (hobject _)
  | _ => exact (ofFields_taken _ hname).congr (by simp [IsShaped]) Iff.rfl

/-- **How sources are taken.** A source that is no record class stands for a declared model
exactly if it has one of the shapes. Otherwise it is refused for its shape, unless the first
field that is not shaped lacks nothing of a shape but has modifiers with a key that spells no
text: then, and only then, the source is refused as a value that is not valid. -/
theorem sources_taken (source name : Value) (hclass : ∀ c, source ≠ .recordClass c)
    (hname : name = .null ∨ ∃ n, name.asText? = some n) :
    ((∃ d, ofSource source name = .ok d) ↔ IsShaped name source) ∧
    ((∃ e, ofSource source name = .error (.declaration e) ∧
        e.cause.code = .unsupportedShape) ↔ ¬ IsShaped name source ∧ ¬ IsUnkeyed name source) ∧
    ((∃ i, ofSource source name = .error (.invalid i)) ↔ IsUnkeyed name source) := by
  have htaken := ofSource_taken hclass hname
  exact ⟨htaken.exists_ok_iff, (htaken.mono fun _ told => told.1).exists_refused_iff,
    htaken.exists_invalid_iff⟩

/-- A list of a field, and of a field with a modifier under an integer. -/
def unkeyedFields : Value :=
  .list [.tuple [.str "id", .str "Integer"],
    .tuple [.str "title", .str "Text", .dict [(.int 1, .bool true)]]]

/-- A mapping of the two, in which the first has no name. -/
def unnamedFields : Value :=
  .dict [(.str "", .str "Integer"),
    (.str "title", .tuple [.str "Text", .dict [(.int 1, .bool true)]])]

theorem sources_taken_unkeyed :
    (IsUnkeyed (.str "Note") unkeyedFields ∧
      ∃ i, ofSource unkeyedFields (.str "Note") = .error (.invalid i)) ∧
    (¬ IsShaped (.str "Note") unnamedFields ∧ ¬ IsUnkeyed (.str "Note") unnamedFields ∧
      ∃ e, ofSource unnamedFields (.str "Note") = .error (.declaration e) ∧
        e.cause.code = .unsupportedShape) := by
  obtain ⟨-, -, hinvalid⟩ := sources_taken unkeyedFields (.str "Note") nofun (.inr ⟨_, rfl⟩)
  obtain ⟨-, hrefused, -⟩ := sources_taken unnamedFields (.str "Note") nofun (.inr ⟨_, rfl⟩)
  have hkey : ¬ FieldDecl.Keyed [(.int 1, .bool true)] := by
    intro hkeyed
    obtain ⟨s, hs⟩ := hkeyed _ List.mem_cons_self
    cases hs
  have hunkeyed : IsUnkeyed (.str "Note") unkeyedFields :=
    ⟨by decide, .list ⟨[_], _, [], rfl, List.forall_mem_singleton.mpr (.pair (by decide)),
      .triple (by decide) hkey⟩⟩
  have hshape : ∃ e, ofSource unnamedFields (.str "Note") = .error (.declaration e) ∧
      e.cause.code = .unsupportedShape := ⟨_, rfl, rfl⟩
  obtain ⟨hunshaped, hkeyed⟩ := hrefused.mp hshape
  exact ⟨⟨hunkeyed, hinvalid.mpr hunkeyed⟩, hunshaped, hkeyed, hshape⟩

/-- A single field with a modifier under an integer is not refused for its shape either. -/
theorem ofSource_unkeyed :
    ofSource (.list [.tuple [.str "id", .str "Integer", .dict [(.int 1, .bool true)]]])
        (.str "Note") =
      .error (.invalid ⟨"FieldDeclaration",
        [⟨.notText, [.name "modifiers", .index 1, .name "[key]"]⟩]⟩) := by
  rfl

end ModelDecl

end Relvar
