/-
Shapes of declarations. A model is declared by a name and by fields, each with a name, a type
and modifiers, and this may be written in several shapes: a list, a tuple or a mapping, in which
each field has a shape of its own, or the declared model itself. Whatever shapes are taken, the
source stands for one declared model, and it is compiled as that model is.
-/
import Relvar.Compiler
import Relvar.Proofs.Outcome
import Relvar.Proofs.Value.Text
import Mathlib.Data.List.Induction

set_option autoImplicit false

namespace Relvar

/-! ## What is declared -/

/-- A value that is text. -/
structure TextValue where
  value : Value
  text : String
  isText : value.asText? = some text

/-- A string is text. -/
def TextValue.ofString (s : String) : TextValue := ⟨.str s, s, rfl⟩

/-- What a field is declared by. Its type is no tuple and no declared field, which are shapes of
fields, and its modifiers have different keys. -/
structure FieldSpec where
  name : TextValue
  named : name.text ≠ ""
  type : Value
  notTuple : ∀ xs, type ≠ .tuple xs
  notField : ∀ f, type ≠ .field f
  modifiers : List (TextValue × Value)
  keys : (modifiers.map fun m => m.1.text).Nodup

/-- What a model is declared by. Its fields have different names. -/
structure ModelSpec where
  name : TextValue
  named : name.text ≠ ""
  fields : List FieldSpec
  names : (fields.map fun r => r.name.text).Nodup

namespace FieldSpec

/-- The modifiers as a mapping. -/
def options (r : FieldSpec) : Value :=
  .dict (Dict.ofList (r.modifiers.map fun m => (m.1.value, m.2)))

/-- The declared field. -/
def field (r : FieldSpec) : FieldDecl :=
  ⟨r.name.text, r.type, r.modifiers.map fun m => (m.1.text, m.2)⟩

/-- The shapes of a field in a list. Without modifiers, they may be left out. -/
inductive Item (r : FieldSpec) : Value → Prop
  | triple : Item r (.tuple [r.name.value, r.type, r.options])
  | pair (plain : r.modifiers = []) : Item r (.tuple [r.name.value, r.type])
  | declared : Item r (.field r.field)

/-- The shapes of a field in a mapping, under its name. Without modifiers, they may be left out,
and then the type need not be in a tuple. -/
inductive Entry (r : FieldSpec) : Value → Prop
  | pair : Entry r (.tuple [r.type, r.options])
  | single (plain : r.modifiers = []) : Entry r (.tuple [r.type])
  | bare (plain : r.modifiers = []) : Entry r r.type
  | declared : Entry r (.field r.field)

end FieldSpec

namespace ModelSpec

/-- The declared model. -/
def model (m : ModelSpec) : ModelDecl := ⟨.str m.name.text, m.fields.map (·.field)⟩

/-- The shapes of a model. A mapping is built from its entries. -/
inductive Source (m : ModelSpec) : Value → Prop
  | list {items : List Value} (shaped : List.Forall₂ FieldSpec.Item m.fields items) :
      Source m (.list items)
  | tuple {items : List Value} (shaped : List.Forall₂ FieldSpec.Item m.fields items) :
      Source m (.tuple items)
  | mapping {es : List (Value × Value)}
      (shaped : List.Forall₂ (fun r e => e.1 = r.name.value ∧ r.Entry e.2) m.fields es) :
      Source m (.dict (Dict.ofList es))
  | declared : Source m (.model m.model)

end ModelSpec

/-! ## Keys -/

namespace TextValue

variable {keys : List TextValue}

theorem isName_value {k : TextValue} (h : k.text ≠ "") : FieldDecl.isName k.value = true := by
  rw [FieldDecl.isName, k.isText]
  simpa using h

theorem pairwise_sameKey (h : (keys.map (·.text)).Nodup) :
    (keys.map (·.value)).Pairwise fun v w => v.sameKey w = false := by
  rw [List.pairwise_map]
  rw [List.Nodup, List.pairwise_map] at h
  refine h.imp fun {k l} hne => ?_
  rw [Value.sameKey_text k.isText l.isText]
  exact beq_false_of_ne hne

/-- A mapping keeps all its entries if their keys are different texts. -/
theorem ofList_eq {es : List (Value × Value)} (hes : es.map Prod.fst = keys.map (·.value))
    (h : (keys.map (·.text)).Nodup) : Dict.ofList es = es := by
  have hpairwise := pairwise_sameKey h
  rw [← hes, List.pairwise_map] at hpairwise
  exact Dict.merge_fresh hpairwise

end TextValue

namespace FieldDecl

variable {ms : List (TextValue × Value)}

theorem keyOffences_text (place : List Place) :
    keyOffences place (ms.map fun m => (m.1.value, m.2)) = [] := by
  rw [keyOffences, List.filterMap_map, List.filterMap_eq_nil_iff]
  intro m hm
  simp only [Function.comp_apply, Value.spelledText_of_asText? m.1.isText]

/-- A name that is not there comes last. -/
theorem insertNamed_fresh {es : List (String × Value)} {name : String} (v : Value)
    (h : name ∉ es.map Prod.fst) : Dict.insertNamed es name v = es ++ [(name, v)] := by
  have hany : es.any (·.1 == name) = false := by
    rw [List.any_eq_false]
    intro e he hsame
    exact h (List.mem_map.mpr ⟨e, he, eq_of_beq hsame⟩)
  rw [Dict.insertNamed, hany]
  rfl

/-- Keys that are different texts are kept as the texts, in their order. -/
theorem spelledEntries_text (h : (ms.map fun m => m.1.text).Nodup) :
    spelledEntries (ms.map fun m => (m.1.value, m.2)) = ms.map fun m => (m.1.text, m.2) := by
  -- the induction is from the right, so that the keys in front are those written before
  induction ms using List.reverseRecOn with
  | nil => rfl
  | append_singleton ms m ih =>
    rw [List.map_append, List.nodup_append] at h
    obtain ⟨hkeys, -, hfresh⟩ := h
    have hnew : m.1.text ∉ (ms.map fun m => (m.1.text, m.2)).map Prod.fst := by
      intro hmem
      rw [List.map_map] at hmem
      exact hfresh _ hmem _ (List.mem_singleton_self _) rfl
    have ih := ih hkeys
    rw [spelledEntries] at ih
    rw [spelledEntries, List.map_append, List.foldl_append, ih]
    simp only [List.map_cons, List.map_nil, List.foldl_cons, List.foldl_nil,
      Value.spelledText_of_asText? m.1.isText, insertNamed_fresh _ hnew, List.map_append]

end FieldDecl

/-! ## Fields -/

namespace FieldDecl

theorem ofItems_eq_mapM (model : Value) (items : List Value) :
    ofItems model items = items.mapM (ofItem model) :=
  Except.eq_mapM (ofItems model) rfl (fun _ _ => rfl) items

theorem ofEntries_eq_mapM (model : Value) (es : List (Value × Value)) :
    ofEntries model es = es.mapM fun e => ofEntry model e.1 e.2 :=
  Except.eq_mapM (ofEntries model) rfl (fun _ _ => rfl) es

end FieldDecl

namespace FieldSpec

open FieldDecl (ofValues ofTriple ofItem ofEntry ofItems ofEntries)

variable (r : FieldSpec) {v model : Value} {rs : List FieldSpec}

theorem options_eq : r.options = .dict (r.modifiers.map fun m => (m.1.value, m.2)) := by
  have hkeys : (r.modifiers.map fun m => (m.1.value, m.2)).map Prod.fst =
      (r.modifiers.map Prod.fst).map (·.value) := by simp
  have hdistinct : ((r.modifiers.map Prod.fst).map (·.text)).Nodup := by
    rw [List.map_map]
    exact r.keys
  rw [options, TextValue.ofList_eq hkeys hdistinct]

theorem options_plain (h : r.modifiers = []) : r.options = .dict [] := by
  rw [options_eq, h]
  rfl

theorem checkModifiers_options (place : List Place) :
    FieldDecl.checkModifiers place r.options = .ok (r.modifiers.map fun m => (m.1.text, m.2)) := by
  rw [options_eq, FieldDecl.checkModifiers]
  simp only [Value.asMapping?, FieldDecl.keyOffences_text, List.isEmpty_nil, if_true,
    FieldDecl.spelledEntries_text r.keys]

/-- A declared field that is built directly. -/
theorem ofValues_eq : ofValues r.name.value r.type r.options = .ok r.field := by
  simp only [ofValues, FieldDecl.check, FieldDecl.checkPart,
    Value.checkName_text _ r.name.isText, if_neg r.named, checkModifiers_options]
  rfl

theorem ofTriple_eq : ofTriple model r.name.value r.type r.options = .ok r.field := by
  rw [ofTriple, options_eq]
  simp only [Value.asMapping?]
  rw [← options_eq, ofValues_eq]
  rfl

variable {r}

theorem ofItem_eq (h : r.Item v) : ofItem model v = .ok r.field := by
  have hname := TextValue.isName_value r.named
  cases h with
  | triple => rw [ofItem, if_pos hname, ofTriple_eq]
  | pair plain => rw [ofItem, if_pos hname, ← r.options_plain plain, ofTriple_eq]
  | declared => rfl

theorem ofEntry_eq (h : r.Entry v) : ofEntry model r.name.value v = .ok r.field := by
  have hname := TextValue.isName_value r.named
  unfold ofEntry
  rw [if_pos hname]
  cases h with
  | pair => exact ofItem_eq .triple
  | single plain => exact ofItem_eq (.pair plain)
  | bare plain =>
    split
    · next f hf => exact absurd hf (r.notField f)
    · next xs hxs => exact absurd hxs (r.notTuple xs)
    · rw [← r.options_plain plain, ofValues_eq]
      rfl
  | declared => rfl

theorem ofItems_eq {items : List Value} (h : List.Forall₂ Item rs items) :
    ofItems model items = .ok (rs.map (·.field)) := by
  rw [FieldDecl.ofItems_eq_mapM, Except.mapM_eq_ok, List.forall₂_map_right_iff]
  exact h.flip.imp fun _ _ => ofItem_eq

theorem ofEntries_eq {es : List (Value × Value)}
    (h : List.Forall₂ (fun r e => e.1 = r.name.value ∧ r.Entry e.2) rs es) :
    ofEntries model es = .ok (rs.map (·.field)) := by
  rw [FieldDecl.ofEntries_eq_mapM, Except.mapM_eq_ok, List.forall₂_map_right_iff]
  refine h.flip.imp fun e r hentry => ?_
  rw [hentry.1]
  exact ofEntry_eq hentry.2

theorem keys_of_entries {es : List (Value × Value)}
    (h : List.Forall₂ (fun r e => e.1 = r.name.value ∧ r.Entry e.2) rs es) :
    es.map Prod.fst = rs.map (·.name.value) := by
  induction h with
  | nil => rfl
  | cons hentry _ ih => rw [List.map_cons, List.map_cons, hentry.1, ih]

end FieldSpec

/-! ## Models -/

theorem ModelDecl.checkFields_field (fs : List FieldDecl) (index : Nat) :
    checkFields index (fs.map .field) = .ok fs := by
  induction fs generalizing index with
  | nil => rfl
  | cons f fs ih =>
    rw [List.map_cons, checkFields, ih]
    rfl

/-- Declared fields are taken as they are, and only the name is looked at. -/
theorem ModelDecl.named_eq (name : Value) (fs : List FieldDecl) :
    named name fs = match name.checkName [.name "name"] with
      | .ok n => .ok ⟨.str n, fs⟩
      | .error es => .error (.invalid ⟨"ModelDeclaration", es⟩) := by
  rw [named, ofValues, checkFields_field]
  cases name.checkName [.name "name"] with
  | ok n => rfl
  | error es => simp [Checked.offences, Except.mapError]

theorem ModelDecl.named_eq_ok {name : Value} {fs : List FieldDecl} {d : ModelDecl}
    (h : named name fs = .ok d) :
    ∃ n, name.checkName [.name "name"] = .ok n ∧ d = ⟨.str n, fs⟩ := by
  rw [named_eq] at h
  split at h
  · next n hn => exact ⟨n, hn, (Except.ok.inj h).symm⟩
  · cases h

theorem ModelDecl.ofFields_eq_ok {source name : Value} {d : ModelDecl} :
    ofFields source name = .ok d ↔ name.isTruthy = true ∧
      ∃ fs, fieldsOf name source = .ok fs ∧ named name fs = .ok d := by
  unfold ofFields
  by_cases htruthy : name.isTruthy = true
  · rw [if_pos htruthy, and_iff_right htruthy]
    exact Except.bind_eq_ok
  · rw [if_neg htruthy]
    simp [htruthy, throw, throwThe, MonadExceptOf.throw, bind, Except.bind]

/-- Where the name of a declared model comes from that a source stands for: from a declared
model that is given, from what a name spells, or from the name that a class is renamed to. -/
theorem ModelDecl.name_ofSource {P : Value → Prop} {source name : Value} {d : ModelDecl}
    (hsource : ∀ m : ModelDecl, source = .model m → P m.name)
    (hspelled : ∀ n : String, n ≠ "" → P (.str n)) (hgiven : name.isTruthy = true → P name)
    (h : ofSource source name = .ok d) : P d.name := by
  have hnamed : ∀ {given : Value} {fs : List FieldDecl} {m : ModelDecl},
      named given fs = .ok m → P m.name := by
    intro given fs m hm
    obtain ⟨n, hn, rfl⟩ := named_eq_ok hm
    exact hspelled n (Value.checkName_ne hn)
  have hfields : ofFields source name = .ok d → P d.name := by
    intro hd
    obtain ⟨-, fs, -, hd⟩ := ofFields_eq_ok.mp hd
    exact hnamed hd
  cases source with
  | model m =>
    obtain rfl := Except.ok.inj h
    exact hsource _ rfl
  | recordClass c =>
    obtain ⟨m, hm, rfl⟩ := Except.map_eq_ok.mp h
    obtain ⟨fs, -, hm⟩ := Except.bind_eq_ok.mp hm
    -- a class keeps the name of its table, or takes one that counts as true
    rw [renamed]
    split
    · next hrenamed => exact hgiven (Bool.and_eq_true_iff.mp hrenamed).1
    · exact hnamed hm
  | object kind attributes => cases h
  | field f => cases h
  | _ => exact hfields h

namespace ModelSpec

variable (m : ModelSpec) {source : Value}

/-- A declared model that is built directly. -/
theorem ofValues_eq :
    ModelDecl.ofValues m.name.value (m.fields.map fun r => .field r.field) = .ok m.model := by
  have hfields : ModelDecl.checkFields 0 (m.fields.map fun r => .field r.field) =
      .ok (m.fields.map (·.field)) := by
    rw [← ModelDecl.checkFields_field (m.fields.map (·.field)) 0, List.map_map]
    rfl
  rw [ModelDecl.ofValues, Value.checkName_text _ m.name.isText, if_neg m.named, hfields]
  rfl

variable {m}

theorem ofFields_eq {source : Value}
    (h : ModelDecl.fieldsOf m.name.value source = .ok (m.fields.map (·.field))) :
    ModelDecl.ofFields source m.name.value = .ok m.model := by
  have htruthy : m.name.value.isTruthy = true := by
    rw [Value.isTruthy_of_asText? m.name.isText]
    simpa using m.named
  rw [ModelDecl.ofFields, if_pos htruthy, h]
  show ModelDecl.named _ _ = _
  rw [ModelDecl.named, List.map_map]
  exact congrArg _ m.ofValues_eq

/-- Every shape of a model stands for the declared model. -/
theorem ofSource_eq (h : m.Source source) :
    ModelDecl.ofSource source m.name.value = .ok m.model := by
  cases h with
  | list shaped => exact ofFields_eq (FieldSpec.ofItems_eq shaped)
  | tuple shaped => exact ofFields_eq (FieldSpec.ofItems_eq shaped)
  | @mapping es shaped =>
    have hkeys : es.map Prod.fst = (m.fields.map (·.name)).map (·.value) := by
      rw [FieldSpec.keys_of_entries shaped, List.map_map]
      rfl
    -- a mapping keeps each key once, so the names of the fields have to differ
    have hdistinct : ((m.fields.map (·.name)).map (·.text)).Nodup := by
      rw [List.map_map]
      exact m.names
    rw [TextValue.ofList_eq hkeys hdistinct]
    exact ofFields_eq (FieldSpec.ofEntries_eq shaped)
  | declared => rfl

theorem compile_eq (h : m.Source source) (settings : CompilerSettings) :
    Compiler.compile settings source m.name.value =
      Compiler.compileDecl settings m.model := by
  have htold : Compiler.tellSource source = pure () := by cases h <;> rfl
  rw [Compiler.compile, Compiler.declare, htold, ofSource_eq h]
  rfl

/-- **All shapes mean the same.** The fields of a model and the model itself can be built
directly, and every source of the model, whatever shape it has and each of its fields has,
stands for the model that is built so. So its compilation is that of the declared model: it
ends in the same way, with the same compiled model or the same fault, in every session. -/
theorem shapes_agree (m : ModelSpec) :
    (∀ r ∈ m.fields, FieldDecl.ofValues r.name.value r.type r.options = .ok r.field) ∧
    ModelDecl.ofValues m.name.value (m.fields.map fun r => .field r.field) = .ok m.model ∧
    ∀ source, m.Source source →
      ModelDecl.ofSource source m.name.value = .ok m.model ∧
      ∀ settings, Compiler.compile settings source m.name.value =
        Compiler.compileDecl settings m.model :=
  ⟨fun r _ => r.ofValues_eq, m.ofValues_eq, fun _ h => ⟨ofSource_eq h, compile_eq h⟩⟩

/-- A model with two fields, one of them with a modifier. -/
def note : ModelSpec where
  name := .ofString "Note"
  named := by decide
  fields := [
    { name := .ofString "id"
      named := by decide
      type := .str "Integer"
      notTuple := nofun
      notField := nofun
      modifiers := [(.ofString "primary_key", .bool true)]
      keys := by decide },
    { name := .ofString "title"
      named := by decide
      type := .str "Text"
      notTuple := nofun
      notField := nofun
      modifiers := []
      keys := by decide }]
  names := by decide

/-- The shapes in which the sample model is declared: triples in a list and in a tuple, with a
pair where there are no modifiers, declared fields, a mapping to pairs, a mapping to a type
where there are no modifiers, and the declared model. -/
theorem shapes_agree_note :
    let id : Value := .tuple [.str "id", .str "Integer", .dict [(.str "primary_key", .bool true)]]
    let key : Value := .tuple [.str "Integer", .dict [(.str "primary_key", .bool true)]]
    ∀ source ∈ [
        Value.list [id, .tuple [.str "title", .str "Text", .dict []]],
        .tuple [id, .tuple [.str "title", .str "Text", .dict []]],
        .list [id, .tuple [.str "title", .str "Text"]],
        .list (note.fields.map fun r => .field r.field),
        .dict (Dict.ofList [(.str "id", key), (.str "title", .tuple [.str "Text", .dict []])]),
        .dict (Dict.ofList [(.str "id", key), (.str "title", .str "Text")]),
        .model note.model],
      ModelDecl.ofSource source (.str "Note") = .ok note.model ∧
      ∀ settings, Compiler.compile settings source (.str "Note") =
        Compiler.compileDecl settings note.model := by
  intro id key
  obtain ⟨-, -, hall⟩ := note.shapes_agree
  simp only [List.forall_mem_cons]
  refine ⟨hall _ (.list ?_), hall _ (.tuple ?_), hall _ (.list ?_), hall _ (.list ?_),
    hall _ (.mapping ?_), hall _ (.mapping ?_), hall _ .declared, nofun⟩
  · exact .cons .triple (.cons .triple .nil)
  · exact .cons .triple (.cons .triple .nil)
  · exact .cons .triple (.cons (.pair rfl) .nil)
  · exact .cons .declared (.cons .declared .nil)
  · exact .cons ⟨rfl, .pair⟩ (.cons ⟨rfl, .pair⟩ .nil)
  · exact .cons ⟨rfl, .pair⟩ (.cons ⟨rfl, .bare rfl⟩ .nil)

end ModelSpec

end Relvar
