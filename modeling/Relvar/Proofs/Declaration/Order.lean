/-
The order in which the modifiers of the fields of a model are written. A source of any shape may
write the modifiers of each of its fields in another order: those of a declared field, those in
the mapping of a tuple, and the extra entries of a field of a record class. It then declares the
same fields up to the order of their modifiers, so it is compiled to the same model, or refused
as the other one is.
-/
import Relvar.Proofs.Compilation.Phases
import Relvar.Proofs.Field.Order
import Relvar.Proofs.RecordClass.Field

set_option autoImplicit false

namespace Relvar

/-! ## Mappings -/

/-- Where at most one element can be found, it is found in every order. -/
theorem find?_perm {α : Type} {p : α → Bool} {xs ys : List α} (hperm : xs.Perm ys)
    (hone : xs.Pairwise fun x y => p x = true → p y = true → False) :
    xs.find? p = ys.find? p := by
  induction hperm with
  | nil => rfl
  | cons x _ ih =>
    rw [List.find?_cons, List.find?_cons, ih (List.pairwise_cons.mp hone).2]
  | swap x y xs =>
    have hxy := (List.pairwise_cons.mp hone).1 x List.mem_cons_self
    simp only [List.find?_cons]
    cases hx : p x <;> cases hy : p y <;> first | rfl | exact (hxy hy hx).elim
  | trans hperm _ ih₁ ih₂ =>
    have hsymm : ∀ {x y : α}, (p x = true → p y = true → False) → p y = true → p x = true →
        False := fun h hy hx => h hx hy
    rw [ih₁ hone, ih₂ ((hperm.pairwise_iff hsymm).mp hone)]

/-- The value of a string in a mapping, whose keys are different texts as far as they are text,
does not depend on the order. -/
theorem Dict.find?_perm {es es' : List (Value × Value)} (hperm : es.Perm es')
    (htexts : (es.filterMap fun e => e.1.asText?).Nodup) (s : String) :
    Dict.find? es (.str s) = Dict.find? es' (.str s) := by
  rw [Dict.find?, Dict.find?, Relvar.find?_perm hperm]
  refine (List.pairwise_filterMap.mp htexts).imp fun {a b} hne ha hb => ?_
  exact hne s (Value.asText?_of_sameKey_str ha) s (Value.asText?_of_sameKey_str hb) rfl

namespace FieldDecl

/-- An entry under the text that its key spells, if it spells one. -/
def spelledPair? (e : Value × Value) : Option (String × Value) :=
  e.1.spelledText.toOption.map (·, e.2)

/-- The entries of a mapping of modifiers in another order. The keys spell different texts, so
that no modifier is there twice. -/
structure EntriesReorder (es es' : List (Value × Value)) : Prop where
  texts : ((es.filterMap spelledPair?).map Prod.fst).Nodup
  perm : es.Perm es'

variable {es es' : List (Value × Value)} {model name type key v w : Value} {f : FieldDecl}

theorem EntriesReorder.symm (h : EntriesReorder es es') : EntriesReorder es' es where
  texts := ((h.perm.filterMap _).map Prod.fst).nodup_iff.mp h.texts
  perm := h.perm.symm

/-- Keys that spell different texts are kept as the texts, in their order. -/
theorem spelledEntries_eq (h : ((es.filterMap spelledPair?).map Prod.fst).Nodup) :
    spelledEntries es = es.filterMap spelledPair? := by
  -- the induction is from the right, so that the keys in front are those written before
  induction es using List.reverseRecOn with
  | nil => rfl
  | append_singleton es e ih =>
    rw [List.filterMap_append, List.map_append, List.nodup_append] at h
    obtain ⟨hfront, -, hfresh⟩ := h
    have ih := ih hfront
    rw [spelledEntries] at ih
    rw [spelledEntries, List.foldl_append, ih, List.filterMap_append]
    cases hspelled : e.1.spelledText with
    | error kind =>
      have hnone : spelledPair? e = none := by rw [spelledPair?, hspelled]; rfl
      simp [hspelled, hnone]
    | ok s =>
      have hsome : spelledPair? e = some (s, e.2) := by rw [spelledPair?, hspelled]; rfl
      have hnew : s ∉ (es.filterMap spelledPair?).map Prod.fst := by
        intro hmem
        refine hfresh s hmem s ?_ rfl
        simp [hsome]
      simp [hspelled, hsome, insertNamed_fresh e.2 hnew]

/-- Modifiers that are accepted are accepted in another order too. -/
theorem EntriesReorder.checkModifiers {place : List Place} {ms : List (String × Value)}
    (h : EntriesReorder es es') (hms : checkModifiers place (.dict es) = .ok ms) :
    ∃ ms', FieldDecl.checkModifiers place (.dict es') = .ok ms' ∧
      (ms.map Prod.fst).Nodup ∧ ms.Perm ms' := by
  simp only [FieldDecl.checkModifiers, Value.asMapping?, List.isEmpty_iff] at hms ⊢
  by_cases hkeyed : keyOffences place es = []
  · rw [if_pos hkeyed] at hms
    obtain rfl := Except.ok.inj hms
    have hkeyed' : keyOffences place es' = [] := by
      rw [keyOffences_eq_nil] at hkeyed ⊢
      exact fun e he => hkeyed e (h.perm.mem_iff.mpr he)
    rw [if_pos hkeyed', spelledEntries_eq h.texts, spelledEntries_eq h.symm.texts]
    exact ⟨_, rfl, h.texts, h.perm.filterMap _⟩
  · rw [if_neg hkeyed] at hms
    cases hms

/-! ## Fields -/

/-- A tuple declares the same field in another order of its modifiers. -/
theorem EntriesReorder.ofItem (h : EntriesReorder es es')
    (hf : ofItem model (.tuple [name, type, .dict es]) = .ok f) :
    ∃ g, FieldDecl.ofItem model (.tuple [name, type, .dict es']) = .ok g ∧ f.Reorders g := by
  rw [FieldDecl.ofItem] at hf ⊢
  by_cases hname : isName name = true
  · obtain ⟨s, hs, hne⟩ := asText?_of_isName hname
    rw [if_pos hname, ofTriple, Value.asMapping?] at hf ⊢
    rw [ofValues_named hs hne] at hf ⊢
    have hbuilt := Except.mapError_eq_ok.mp (Except.mapError_eq_ok.mp hf)
    obtain ⟨ms, hms, rfl⟩ := Except.map_eq_ok.mp hbuilt
    obtain ⟨ms', hms', hnames, hperm⟩ := h.checkModifiers hms
    rw [hms']
    exact ⟨⟨s, type, ms'⟩, rfl, .permuted hnames hperm⟩
  · rw [if_neg hname] at hf
    cases hf

/-- An item of a list with its modifiers in another order. -/
inductive ItemReorders : Value → Value → Prop
  | same (v : Value) : ItemReorders v v
  | declared {f g : FieldDecl} (reorders : f.Reorders g) : ItemReorders (.field f) (.field g)
  | triple (name type : Value) {es es' : List (Value × Value)} (reorder : EntriesReorder es es') :
      ItemReorders (.tuple [name, type, .dict es]) (.tuple [name, type, .dict es'])

/-- The value of an entry of a mapping with its modifiers in another order. -/
inductive EntryReorders : Value → Value → Prop
  | same (v : Value) : EntryReorders v v
  | declared {f g : FieldDecl} (reorders : f.Reorders g) : EntryReorders (.field f) (.field g)
  | pair (type : Value) {es es' : List (Value × Value)} (reorder : EntriesReorder es es') :
      EntryReorders (.tuple [type, .dict es]) (.tuple [type, .dict es'])

theorem ItemReorders.symm (h : ItemReorders v w) : ItemReorders w v := by
  cases h with
  | same => exact .same v
  | declared reorders => exact .declared reorders.symm
  | triple name type reorder => exact .triple name type reorder.symm

theorem EntryReorders.symm (h : EntryReorders v w) : EntryReorders w v := by
  cases h with
  | same => exact .same v
  | declared reorders => exact .declared reorders.symm
  | pair type reorder => exact .pair type reorder.symm

theorem ItemReorders.ofItem (h : ItemReorders v w) (hf : ofItem model v = .ok f) :
    ∃ g, FieldDecl.ofItem model w = .ok g ∧ f.Reorders g := by
  cases h with
  | same => exact ⟨f, hf, .same⟩
  | @declared f' g reorders =>
    obtain rfl : f' = f := Except.ok.inj hf
    exact ⟨g, rfl, reorders⟩
  | triple name type reorder => exact reorder.ofItem hf

theorem EntryReorders.ofEntry (h : EntryReorders v w) (hf : ofEntry model key v = .ok f) :
    ∃ g, FieldDecl.ofEntry model key w = .ok g ∧ f.Reorders g := by
  cases h with
  | same => exact ⟨f, hf, .same⟩
  | @declared f' g reorders =>
    rw [FieldDecl.ofEntry] at hf ⊢
    by_cases hname : isName key = true
    · rw [if_pos hname] at hf ⊢
      obtain rfl : f' = f := Except.ok.inj hf
      exact ⟨g, rfl, reorders⟩
    · rw [if_neg hname] at hf
      cases hf
  | pair type reorder =>
    rw [FieldDecl.ofEntry] at hf ⊢
    by_cases hname : isName key = true
    · rw [if_pos hname] at hf ⊢
      exact reorder.ofItem hf
    · rw [if_neg hname] at hf
      cases hf

theorem ofItems_reorders {items items' : List Value} {fs : List FieldDecl}
    (h : List.Forall₂ ItemReorders items items') (hfs : ofItems model items = .ok fs) :
    ∃ gs, ofItems model items' = .ok gs ∧ List.Forall₂ Reorders fs gs := by
  rw [ofItems_eq_mapM] at hfs ⊢
  exact Except.mapM_forall₂ h ItemReorders.ofItem hfs

theorem ofEntries_reorders {fs : List FieldDecl}
    (h : List.Forall₂ (fun e e' => e.1 = e'.1 ∧ EntryReorders e.2 e'.2) es es')
    (hfs : ofEntries model es = .ok fs) :
    ∃ gs, ofEntries model es' = .ok gs ∧ List.Forall₂ Reorders fs gs := by
  rw [ofEntries_eq_mapM] at hfs ⊢
  refine Except.mapM_forall₂ h (fun {e e' f} hentry hf => ?_) hfs
  rw [← hentry.1]
  exact hentry.2.ofEntry hf

end FieldDecl

/-! ## Record classes -/

namespace ClassField

/-- A field of a record class with its extra entries in another order. Their keys are different
texts, as far as they are text. -/
inductive Reorders (f : ClassField) : ClassField → Prop
  | same : Reorders f f
  | permuted {extra : List (Value × Value)} (texts : (f.extra.filterMap fun e => e.1.asText?).Nodup)
      (perm : f.extra.Perm extra) : Reorders f { f with extra := extra }

variable {f g : ClassField}

theorem Reorders.symm (h : Reorders f g) : Reorders g f := by
  cases h with
  | same => exact .same
  | permuted texts perm => exact .permuted ((perm.filterMap _).nodup_iff.mp texts) perm.symm

/-- Extra entries are looked up by their names, so that their order does not matter. -/
theorem Reorders.declaration_eq (h : Reorders f g) : f.declaration = g.declaration := by
  cases h with
  | same => rfl
  | @permuted extra texts perm =>
    have hfind (s : String) : Dict.find? f.extra (.str s) = Dict.find? extra (.str s) :=
      Dict.find?_perm perm texts s
    simp only [declaration, declaredType, options, modifiers, hfind]

theorem declarations_reorders {fs gs : List ClassField} (h : List.Forall₂ Reorders fs gs) :
    declarations fs = declarations gs := by
  induction h with
  | nil => rfl
  | cons hfield _ ih => rw [declarations, declarations, hfield.declaration_eq, ih]

end ClassField

/-! ## Models -/

namespace ModelDecl

/-- A declared model with the modifiers of its fields in another order. -/
structure Reorders (d e : ModelDecl) : Prop where
  name : d.name = e.name
  fields : List.Forall₂ FieldDecl.Reorders d.fields e.fields

/-- A source with the modifiers of its fields in another order. -/
inductive SourceReorders : Value → Value → Prop
  | list {items items' : List Value} (each : List.Forall₂ FieldDecl.ItemReorders items items') :
      SourceReorders (.list items) (.list items')
  | tuple {items items' : List Value} (each : List.Forall₂ FieldDecl.ItemReorders items items') :
      SourceReorders (.tuple items) (.tuple items')
  | mapping {es es' : List (Value × Value)}
      (each : List.Forall₂ (fun e e' => e.1 = e'.1 ∧ FieldDecl.EntryReorders e.2 e'.2) es es') :
      SourceReorders (.dict es) (.dict es')
  | declared {d e : ModelDecl} (reorders : d.Reorders e) : SourceReorders (.model d) (.model e)
  | recordClass {c : RecordClass} {fs : List ClassField}
      (each : List.Forall₂ ClassField.Reorders c.fields fs) :
      SourceReorders (.recordClass c) (.recordClass { c with fields := fs })

variable {d e : ModelDecl} {source source' name : Value}

theorem Reorders.refl (d : ModelDecl) : Reorders d d :=
  ⟨rfl, List.forall₂_same.mpr fun _ _ => .same⟩

theorem Reorders.symm (h : Reorders d e) : Reorders e d :=
  ⟨h.name.symm, h.fields.flip.imp fun _ _ hfield => hfield.symm⟩

theorem SourceReorders.symm (h : SourceReorders source source') :
    SourceReorders source' source := by
  cases h with
  | list each => exact .list (each.flip.imp fun _ _ hitem => hitem.symm)
  | tuple each => exact .tuple (each.flip.imp fun _ _ hitem => hitem.symm)
  | mapping each =>
    exact .mapping (each.flip.imp fun _ _ hentry => ⟨hentry.1.symm, hentry.2.symm⟩)
  | declared reorders => exact .declared reorders.symm
  | @recordClass c fs each =>
    let c' : RecordClass := { c with fields := fs }
    have hback : List.Forall₂ ClassField.Reorders c'.fields c.fields :=
      each.flip.imp fun _ _ hfield => hfield.symm
    exact .recordClass hback

/-- Fields up to the order of their modifiers make a model up to that order. -/
theorem ofFields_reorders (source source' : Value)
    (hfields : ∀ fs, fieldsOf name source = .ok fs →
      ∃ gs, fieldsOf name source' = .ok gs ∧ List.Forall₂ FieldDecl.Reorders fs gs)
    (hd : ofFields source name = .ok d) : ∃ e, ofFields source' name = .ok e ∧ d.Reorders e := by
  obtain ⟨htruthy, fs, hfs, hnamed⟩ := ofFields_eq_ok.mp hd
  obtain ⟨gs, hgs, hreorders⟩ := hfields fs hfs
  obtain ⟨n, hn, rfl⟩ := named_eq_ok hnamed
  refine ⟨⟨.str n, gs⟩, ofFields_eq_ok.mpr ⟨htruthy, gs, hgs, ?_⟩, rfl, hreorders⟩
  rw [named_eq, hn]

/-- What a source declares, it declares in another order of its modifiers up to that order. -/
theorem SourceReorders.ofSource (h : SourceReorders source source')
    (hd : ofSource source name = .ok d) : ∃ e, ModelDecl.ofSource source' name = .ok e ∧
      d.Reorders e := by
  cases h with
  | @list items items' each =>
    exact ofFields_reorders (.list items) (.list items')
      (fun _ => FieldDecl.ofItems_reorders each) hd
  | @tuple items items' each =>
    exact ofFields_reorders (.tuple items) (.tuple items')
      (fun _ => FieldDecl.ofItems_reorders each) hd
  | @mapping es es' each =>
    exact ofFields_reorders (.dict es) (.dict es')
      (fun _ => FieldDecl.ofEntries_reorders each) hd
  | @declared d' e reorders =>
    obtain rfl : d' = d := Except.ok.inj hd
    exact ⟨e, rfl, reorders⟩
  | @recordClass c fs each =>
    have hclass : RecordClass.declaration { c with fields := fs } = RecordClass.declaration c := by
      rw [RecordClass.declaration, RecordClass.declaration, RecordClass.declaredFields,
        RecordClass.declaredFields, ClassField.declarations_reorders each]
      rfl
    refine ⟨d, ?_, .refl d⟩
    rw [← hd, ModelDecl.ofSource, ModelDecl.ofSource, hclass]

/-! ## Compilation -/

theorem extracted_reorders {xs ys : List FieldDecl} {fs : List Field}
    (h : List.Forall₂ FieldDecl.Reorders xs ys)
    (hfs : List.Forall₂ (fun x f => Field.extract x = .ok f) xs fs) :
    List.Forall₂ (fun y f => Field.extract y = .ok f) ys fs := by
  induction h generalizing fs with
  | nil => exact hfs
  | cons hfield _ ih =>
    obtain ⟨f, rest, hf, hrest, rfl⟩ := List.forall₂_cons_left_iff.mp hfs
    exact .cons (hfield.extract hf) (ih hrest)

/-- A declared model is compiled to the same model in another order of its modifiers. -/
theorem Reorders.compiled (h : Reorders d e) {settings : CompilerSettings} {c : Compiled}
    (hc : (Compilation.ofDecl settings d).result = .ok c) :
    (Compilation.ofDecl settings e).result = .ok c := by
  obtain ⟨fs, -, hfs, -⟩ := Compilation.ofDecl_eq_ok hc
  have hread {xs : List FieldDecl} (hxs : List.Forall₂ (fun x f => Field.extract x = .ok f) xs fs) :
      List.Forall₂ (fun x f => (Field.extract x).mapError Fault.declaration = .ok f) xs fs :=
    hxs.imp fun _ _ hx => Except.mapError_eq_ok.mpr hx
  rw [Compilation.ofDecl, Compilation.ofFields_extracted _ _ (hread hfs)] at hc
  have hfields := extracted_reorders h.fields hfs
  rw [Compilation.ofDecl, Compilation.ofFields_extracted _ _ (hread hfields), ← h.name, hc]

/-- A source is compiled to the same model in another order of its modifiers. -/
theorem SourceReorders.compile (h : SourceReorders source source') {settings : CompilerSettings}
    {s s' : Session} {c : Compiled}
    (hc : ((Compiler.compile settings source name).run s).1 = .ok c) :
    ((Compiler.compile settings source' name).run s').1 = .ok c := by
  rw [(Compiler.compile_answers settings source name).outcome s] at hc
  rw [(Compiler.compile_answers settings source' name).outcome s']
  obtain ⟨d, hd, hc⟩ := Except.bind_eq_ok.mp hc
  obtain ⟨e, he, hreorders⟩ := h.ofSource hd
  exact Except.bind_eq_ok.mpr ⟨e, he, hreorders.compiled hc⟩

/-- **The order of modifiers does not matter.** A field is extracted from the entries of a mapping
in one order exactly if it is in another one, and it is the same field. So a source of any shape
is compiled exactly if it is with the modifiers of its fields in another order, and to the same
model. -/
theorem modifiers_unordered :
    (∀ (name : String) (type : Value) (ms ms' : List (String × Value)),
      (ms.map Prod.fst).Nodup → ms.Perm ms' → ∀ f,
        Field.extract ⟨name, type, ms⟩ = .ok f ↔ Field.extract ⟨name, type, ms'⟩ = .ok f) ∧
    ∀ source source' : Value, SourceReorders source source' →
      ∀ (settings : CompilerSettings) (name : Value) (s s' : Session) (c : Compiled),
        ((Compiler.compile settings source name).run s).1 = .ok c ↔
          ((Compiler.compile settings source' name).run s').1 = .ok c := by
  refine ⟨fun name type ms ms' hnames hperm f => ?_,
    fun source source' h settings name s s' c => ?_⟩
  · have hfield : FieldDecl.Reorders ⟨name, type, ms⟩ ⟨name, type, ms'⟩ := .permuted hnames hperm
    exact hfield.extract_iff
  · exact ⟨fun hc => h.compile hc, fun hc => h.symm.compile hc⟩

/-- The sample as a list, with the field that refers to a column written out as a tuple. -/
def visitsItems (modifiers : List (Value × Value)) : Value :=
  .list [
    .field ⟨"note", .str "Option<Text>", [("default", .str "it's, not null);")]⟩,
    .tuple [.str "id", .str "Serial", .dict [(.str "primary_key", .bool true)]],
    .tuple [.str "owner", .semantic .integer, .dict modifiers],
    .tuple [.str "seen", .type (.named .datetime), .dict [(.str "default", .str "now")]],
    .tuple [.str "done", .str "Boolean"]]

/-- The modifiers of the field that refers to a column. -/
def ownerModifiers : List (String × Value) :=
  [("unique", .bool true), ("foreign_key", .str "people.id")]

/-- What the field that refers to a column is extracted to. -/
def ownerField : Field :=
  { Field.plain "owner" .integer false with isUnique := true, reference := some ⟨"people", "id"⟩ }

theorem compile_visitsItems (s : Session) :
    ((Compiler.compile .default (visitsItems (Dict.ofStrings ownerModifiers))
      (.str "visits")).run s).1 = .ok visits := by
  rw [(Compiler.compile_answers _ _ _).outcome s]
  exact Except.eq_ok_of_toOption (by decide +kernel)

theorem modifiers_unordered_visits :
    (ownerModifiers.map Prod.fst).Nodup ∧ ownerModifiers.Perm ownerModifiers.reverse ∧
    Field.extract ⟨"owner", .semantic .integer, ownerModifiers.reverse⟩ = .ok ownerField ∧
    SourceReorders (visitsItems (Dict.ofStrings ownerModifiers))
      (visitsItems (Dict.ofStrings ownerModifiers.reverse)) ∧
    ((Compiler.compile .default (visitsItems (Dict.ofStrings ownerModifiers.reverse))
      (.str "visits")).run calmSession).1 = .ok visits := by
  have hnames : (ownerModifiers.map Prod.fst).Nodup := by decide
  have hperm : ownerModifiers.Perm ownerModifiers.reverse := (List.reverse_perm _).symm
  have howner : Field.extract ⟨"owner", .semantic .integer, ownerModifiers⟩ = .ok ownerField := by
    rfl
  have hreorder : FieldDecl.EntriesReorder (Dict.ofStrings ownerModifiers)
      (Dict.ofStrings ownerModifiers.reverse) := ⟨by decide, hperm.map _⟩
  have hsource : SourceReorders (visitsItems (Dict.ofStrings ownerModifiers))
      (visitsItems (Dict.ofStrings ownerModifiers.reverse)) :=
    .list (.cons (.same _) (.cons (.same _) (.cons (.triple _ _ hreorder)
      (.cons (.same _) (.cons (.same _) .nil)))))
  exact ⟨hnames, hperm, (modifiers_unordered.1 _ _ _ _ hnames hperm _).mp howner, hsource,
    (modifiers_unordered.2 _ _ hsource .default _ calmSession calmSession visits).mp
      (compile_visitsItems calmSession)⟩

end ModelDecl

end Relvar
