/-
Fields of record classes as declared fields. A field may name its type apart from its
annotation. It is then mistyped if it names no field type, or if the annotation is a union that
is not optional; a field that does not name its type is not looked at any further. The first
field that is mistyped or has no name is the one that a class is not declared for.
-/
import Relvar.Proofs.Declaration.Refusal
import Relvar.Proofs.Field.TextualType

set_option autoImplicit false

namespace Relvar

/-! ## Types without a wrapper, and wrappers -/

namespace TypeName

/-- What names a field type without a wrapper: a class that stands for it, or its name. -/
inductive Names : Value → FieldType → Prop
  | ofClass {c : NamedClass} {t : FieldType} (named : ofClass? c = some t) :
      Names (.type (.named c)) t
  | name {v : Value} {t : FieldType} (text : v.asText? = some t.name) : Names v t

/-- A type form that is a union. -/
inductive IsUnion : Value → Prop
  | intro (bars : Bool) (members : List TypeForm) : IsUnion (.type (.union bars members))

/-- An optional type: a union of the empty class and another form, or text in a wrapper. -/
inductive IsOptional : Value → Prop
  | union {bars : Bool} {members : List TypeForm} {m : TypeForm} (solid : m ≠ .named .none)
      (either : members = [m, .named .none] ∨ members = [.named .none, m]) :
      IsOptional (.type (.union bars members))
  | wrapped {v : Value} {s : String} {inner : List Char} (text : v.asText? = some s)
      (wraps : Wraps s.toList inner) : IsOptional v

variable {v w : Value} {t t' : FieldType}

theorem resolve?_eq_some : resolve? v = some t ↔ Names v t := by
  constructor
  · intro h
    have htext : ∀ {v : Value}, v.asText?.bind FieldType.ofName? = some t → Names v t := by
      intro v hv
      obtain ⟨s, hs, hname⟩ := Option.bind_eq_some_iff.mp hv
      exact .name (hs.trans (congrArg some (ofName?_eq_some.mp hname)))
    unfold resolve? at h
    split at h
    · next t' =>
      obtain rfl := Option.some.inj h
      exact .name rfl
    · next c => exact .ofClass h
    · exact htext h
  · intro h
    cases h with
    | ofClass named => exact named
    | name text =>
      -- a field type is text too, but is not looked up by its name
      unfold resolve?
      split
      · next t' => exact congrArg some (name_inj (Option.some.inj text))
      · cases text
      · rw [text, Option.bind_some, FieldType.ofName?_name]

theorem Names.unique (h : Names v t) (h' : Names v t') : t = t' :=
  Option.some.inj ((resolve?_eq_some.mpr h).symm.trans (resolve?_eq_some.mpr h'))

theorem exists_resolve_error : (∃ c, resolve v = .error c) ↔ ∀ t, ¬ Names v t := by
  simp only [← resolve?_eq_some]
  unfold resolve
  cases resolve? v <;> simp

/-- A wrapper is taken off exactly the optional types. -/
theorem exists_unwrap_true : (∃ w, unwrap v = .ok (w, true)) ↔ IsOptional v := by
  constructor
  · rintro ⟨w, h⟩
    -- text is unwrapped by its brackets, and a class by its members
    cases hv : v.asText? with
    | some s =>
      obtain ⟨inner, hwraps, -⟩ := (unwrap_eq_ok_true hv).mp h
      exact .wrapped hv hwraps
    | none =>
      unfold unwrap at h
      split at h
      · cases h
      · obtain ⟨m, hm, heither, -⟩ := unwrap_union.mp h
        exact .union hm heither
      · rw [hv] at h
        cases h
  · intro h
    cases h with
    | union solid either => exact ⟨_, unwrap_union.mpr ⟨_, solid, either, rfl, rfl⟩⟩
    | wrapped text wraps => exact ⟨_, (unwrap_eq_ok_true text).mpr ⟨_, wraps, rfl⟩⟩

/-- The types that cannot be unwrapped are the unions that are not optional. -/
theorem exists_unwrap_error : (∃ c, unwrap v = .error c) ↔ IsUnion v ∧ ¬ IsOptional v := by
  rw [← exists_unwrap_true]
  constructor
  · rintro ⟨c, h⟩
    refine ⟨?_, by simp [h]⟩
    unfold unwrap at h
    split at h
    · cases h
    · exact .intro _ _
    · split at h
      · split at h <;> cases h
      · cases h
  · rintro ⟨⟨bars, members⟩, hplain⟩
    -- a union that is unwrapped is optional
    cases h : unwrap (.type (.union bars members)) with
    | error c => exact ⟨c, rfl⟩
    | ok u =>
      obtain ⟨w, b⟩ := u
      obtain ⟨m, -, -, -, rfl⟩ := unwrap_union.mp h
      exact absurd ⟨w, h⟩ hplain

end TypeName

/-! ## Modifiers -/

theorem ModifierKey.name_injective : Function.Injective ModifierKey.name := by
  intro k l h
  rw [← Option.some.injEq, ← Modifier.ofName?_name k, h, Modifier.ofName?_name]

/-- Modifiers under strings that all differ are taken as they are. -/
theorem FieldDecl.checkModifiers_ofStrings (place : List Place) {ms : List (String × Value)}
    (h : (ms.map Prod.fst).Nodup) : checkModifiers place (.dict (Dict.ofStrings ms)) = .ok ms := by
  -- strings are texts, so that what is known of modifiers under texts applies
  obtain ⟨texts, hms, hdict⟩ : ∃ texts : List (TextValue × Value),
      (texts.map fun m => (m.1.text, m.2)) = ms ∧
        (texts.map fun m => (m.1.value, m.2)) = Dict.ofStrings ms := by
    refine ⟨ms.map fun m => (.ofString m.1, m.2), ?_, ?_⟩ <;> rw [List.map_map]
    · exact List.map_id ms
    · rfl
  have hkeys : (texts.map fun m => m.1.text).Nodup := by
    rwa [← hms, List.map_map] at h
  simp only [checkModifiers, Value.asMapping?]
  rw [← hdict, keyOffences_text, List.isEmpty_nil, if_pos rfl, spelledEntries_text hkeys, hms]

/-- A declared field is built from a name that is not empty, and from such modifiers. -/
theorem FieldDecl.ofValues_ofStrings {name : String} (hname : name ≠ "") (type : Value)
    {ms : List (String × Value)} (h : (ms.map Prod.fst).Nodup) :
    ofValues (.str name) type (.dict (Dict.ofStrings ms)) = .ok ⟨name, type, ms⟩ := by
  rw [ofValues_named rfl hname, checkModifiers_ofStrings _ h]
  rfl

namespace ClassField

variable {given : List (ModifierKey × Value)} {key : ModifierKey} {v : Option Value}

/-- What a field says explicitly under a name. -/
def said? (f : ClassField) (name : String) : Option Value := Dict.find? f.extra (.str name)

/-- The modifiers that a field gives explicitly. -/
def givenModifiers (f : ClassField) : List (ModifierKey × Value) :=
  ModifierKey.all.filterMap fun k => (f.said? k.name).map (k, ·)

theorem modifiers_eq (f : ClassField) : f.modifiers =
    f.givenModifiers ++ unlessGiven f.givenModifiers .size (f.maxLength.map .int) ++
      unlessGiven f.givenModifiers .default (impliedDefault? f.preset) := rfl

theorem mem_keys_givenModifiers {f : ClassField} :
    key ∈ f.givenModifiers.map Prod.fst ↔ ∃ v, f.said? key.name = some v := by
  have hall : key ∈ ModifierKey.all := by cases key <;> decide
  simp [givenModifiers, hall]

theorem nodup_givenModifiers (f : ClassField) : (f.givenModifiers.map Prod.fst).Nodup := by
  have hkeys : f.givenModifiers.map Prod.fst =
      ModifierKey.all.filter fun k => (f.said? k.name).isSome := by
    rw [givenModifiers, List.map_filterMap, ← List.filterMap_eq_filter]
    refine List.filterMap_congr fun k _ => ?_
    cases hsaid : f.said? k.name <;> simp [Option.guard, hsaid]
  rw [hkeys]
  exact List.Nodup.filter _ (by decide)

theorem unlessGiven_of_mem (h : key ∈ given.map Prod.fst) : unlessGiven given key v = [] := by
  rw [unlessGiven, if_pos]
  obtain ⟨m, hm, rfl⟩ := List.mem_map.mp h
  exact List.any_eq_true.mpr ⟨m, hm, by simp⟩

theorem unlessGiven_of_not_mem (h : key ∉ given.map Prod.fst) :
    unlessGiven given key v = (v.map (key, ·)).toList := by
  rw [unlessGiven, if_neg]
  intro hany
  obtain ⟨m, hm, hkey⟩ := List.any_eq_true.mp hany
  exact h (List.mem_map.mpr ⟨m, hm, eq_of_beq hkey⟩)

/-- A modifier that is implied is one more at most, under a key that is not there. -/
theorem nodup_unlessGiven {others : List (ModifierKey × Value)}
    (h : (others.map Prod.fst).Nodup)
    (hkey : key ∈ others.map Prod.fst → key ∈ given.map Prod.fst) :
    ((others ++ unlessGiven given key v).map Prod.fst).Nodup := by
  by_cases hgiven : key ∈ given.map Prod.fst
  · rwa [unlessGiven_of_mem hgiven, List.append_nil]
  · rw [unlessGiven_of_not_mem hgiven]
    cases v with
    | none => rwa [Option.map_none, Option.toList_none, List.append_nil]
    | some v =>
      rw [List.map_append]
      refine List.nodup_append.mpr ⟨h, by simp, ?_⟩
      rintro l hl _ hmem rfl
      obtain rfl : l = key := by simpa using hmem
      exact hgiven (hkey hl)

/-- The modifiers of a field under their names. -/
def entries (f : ClassField) : List (String × Value) := f.modifiers.map fun m => (m.1.name, m.2)

/-- The names of the modifiers of a field differ. -/
theorem nodup_entries (f : ClassField) : (f.entries.map Prod.fst).Nodup := by
  have hkeys : (f.modifiers.map Prod.fst).Nodup := by
    rw [modifiers_eq]
    refine nodup_unlessGiven (nodup_unlessGiven f.nodup_givenModifiers id) fun hdefault => ?_
    rw [List.map_append, List.mem_append] at hdefault
    rcases hdefault with hdefault | hsize
    · exact hdefault
    · -- the size is no default
      rw [unlessGiven] at hsize
      split at hsize <;> simp at hsize
  have hnames := hkeys.map ModifierKey.name_injective
  rw [List.map_map] at hnames
  rwa [entries, List.map_map]

/-! ## Declared fields -/

/-- The extra entry that names the type of a field, if there is one and it is not nothing. -/
def typeNamed? (f : ClassField) : Option Value := (f.said? typeEntry).bind Value.given?

/-- A field that names its type wrongly: what it names is no field type, or it stands on a union
that is not optional. -/
def Mistyped (f : ClassField) : Prop :=
  ∃ v, f.typeNamed? = some v ∧
    ((TypeName.IsUnion f.annotation ∧ ¬ TypeName.IsOptional f.annotation) ∨
      ∀ t, ¬ TypeName.Names v t)

/-- A field that is declared. -/
def IsDeclared (f : ClassField) : Prop := ¬ f.Mistyped ∧ f.name ≠ ""

/-- The text of an optional type, or of one that is not. -/
def typeText (t : FieldType) (nullable : Bool) : String :=
  if nullable then s!"Optional[{t.name}]" else t.name

variable {f : ClassField} {w : Value} {c : Cause}

theorem declaredType_of_none (h : f.typeNamed? = none) : f.declaredType = .ok f.annotation := by
  rw [typeNamed?, said?] at h
  rw [declaredType]
  cases hfind : Dict.find? f.extra (.str typeEntry) with
  | none => rfl
  | some v => cases v <;> simp_all [Value.given?]

/-- The annotation of a field that names its type says only whether the type is optional. -/
theorem declaredType_of_some {v : Value} (h : f.typeNamed? = some v) :
    f.declaredType = (do
      let (_, nullable) ← TypeName.unwrap f.annotation
      let type ← TypeName.resolve v
      return .str (typeText type nullable)) := by
  rw [typeNamed?, said?] at h
  rw [declaredType]
  cases hfind : Dict.find? f.extra (.str typeEntry) with
  | none => simp [hfind] at h
  | some w =>
    rw [hfind, Option.bind_some] at h
    cases w with
    | null => cases h
    | _ =>
      obtain rfl := Option.some.inj h
      rfl

/-- A type has a cause to be refused exactly if it is named wrongly. -/
theorem exists_declaredType_error : (∃ c, f.declaredType = .error c) ↔ f.Mistyped := by
  cases hnamed : f.typeNamed? with
  | none => simp [Mistyped, hnamed, declaredType_of_none hnamed]
  | some v =>
    simp only [Mistyped, hnamed, Option.some.injEq, exists_eq_left', declaredType_of_some hnamed,
      ← TypeName.exists_unwrap_error, ← TypeName.exists_resolve_error]
    cases TypeName.unwrap f.annotation with
    | error c => simp [bind, Except.bind]
    | ok u => cases TypeName.resolve v <;> simp [bind, Except.bind, pure, Except.pure]

/-- A field that is not mistyped has a type. -/
theorem exists_declaredType (h : ¬ f.Mistyped) : ∃ w, f.declaredType = .ok w := by
  cases hw : f.declaredType with
  | error c => exact absurd (exists_declaredType_error.mp ⟨c, hw⟩) h
  | ok w => exact ⟨w, rfl⟩

theorem declaration_of_error (h : f.declaredType = .error c) :
    f.declaration = .error (.declaration ⟨c, none, some (.str f.name)⟩) := by
  rw [declaration, h]
  rfl

/-- A field with a type is declared under its name. -/
theorem declaration_of_ok (h : f.declaredType = .ok w) (hname : f.name ≠ "") :
    f.declaration = .ok ⟨f.name, w, f.entries⟩ := by
  rw [declaration, h]
  show (FieldDecl.ofValues (.str f.name) w (.dict (Dict.ofStrings f.entries))).mapError _ = _
  rw [FieldDecl.ofValues_ofStrings hname w f.nodup_entries]
  rfl

/-- A field without a name is not valid, whatever its type is. -/
theorem declaration_of_nameless (h : f.declaredType = .ok w) (hname : f.name = "") :
    ∃ i, f.declaration = .error (.invalid i) := by
  rw [declaration, h]
  simp only [Cause.about, Except.mapError, bind, Except.bind]
  cases hbuilt : FieldDecl.ofValues (.str f.name) w f.options with
  | error i => exact ⟨i, rfl⟩
  | ok d =>
    -- what is built has the name that is spelled, and a name is not empty
    have hspelled : f.name = d.name := Except.ok.inj (FieldDecl.spelledText_of_ofValues hbuilt)
    have hne := FieldDecl.name_ne_of_check (Except.mapError_eq_ok.mp hbuilt)
    exact absurd (hspelled.symm.trans hname) hne

/-- A field is declared exactly if it is not mistyped and has a name. The refusal of a mistyped
field is about that field, and about no model yet. -/
theorem declaration_taken (f : ClassField) :
    Taken (fun e => e.model = none ∧ e.field = some (.str f.name)) f.IsDeclared
      (¬ f.Mistyped ∧ f.name = "") f.declaration := by
  by_cases hmistyped : f.Mistyped
  · obtain ⟨c, hc⟩ := exists_declaredType_error.mpr hmistyped
    rw [declaration_of_error hc]
    exact .refused (fun h => h.1 hmistyped) (fun h => h.1 hmistyped) ⟨rfl, rfl⟩
  · -- the type comes first, so that only a field with a type is looked at for its name
    obtain ⟨w, hw⟩ := exists_declaredType hmistyped
    by_cases hname : f.name = ""
    · obtain ⟨i, hi⟩ := declaration_of_nameless hw hname
      rw [hi]
      exact .invalid i (fun h => h.2 hname) ⟨hmistyped, hname⟩
    · rw [declaration_of_ok hw hname]
      exact .declared _ ⟨hmistyped, hname⟩ fun h => hname h.2

theorem exists_declaration : (∃ d, f.declaration = .ok d) ↔ f.IsDeclared :=
  f.declaration_taken.exists_ok_iff

theorem declaration_eq_refused {e : DeclError} (h : f.declaration = .error (.declaration e)) :
    f.Mistyped ∧ e.model = none ∧ e.field = some (.str f.name) := by
  have htaken := f.declaration_taken
  rw [h] at htaken
  cases htaken with
  | refused amiss whole told =>
    refine ⟨?_, told⟩
    by_contra hplain
    exact amiss ⟨hplain, fun hname => whole ⟨hplain, hname⟩⟩

/-- A field that is not mistyped is not declared only because it is not valid. -/
theorem declaration_eq_invalid {e : Fault} (hplain : ¬ f.Mistyped)
    (h : f.declaration = .error e) : ∃ i, e = .invalid i := by
  have htaken := f.declaration_taken
  rw [h] at htaken
  cases htaken with
  | refused amiss whole told => exact absurd ⟨hplain, fun hname => whole ⟨hplain, hname⟩⟩ amiss
  | invalid i amiss worse => exact ⟨i, rfl⟩

theorem Mistyped.declaration (h : f.Mistyped) :
    ∃ e, f.declaration = .error (.declaration e) := by
  obtain ⟨c, hc⟩ := exists_declaredType_error.mpr h
  exact ⟨_, declaration_of_error hc⟩

/-! ## Several fields -/

variable {fs : List ClassField}

theorem declarations_eq_mapM (fs : List ClassField) : declarations fs = fs.mapM declaration :=
  Except.eq_mapM declarations rfl (fun _ _ => rfl) fs

theorem declarations_eq_ok {ds : List FieldDecl} :
    declarations fs = .ok ds ↔ List.Forall₂ (fun f d => f.declaration = .ok d) fs ds := by
  rw [declarations_eq_mapM, Except.mapM_eq_ok]

/-- Fields are not declared because of the first of them that is not. -/
theorem declarations_eq_error {e : Fault} : declarations fs = .error e ↔
    FirstBad IsDeclared (fun f => f.declaration = .error e) fs := by
  rw [declarations_eq_mapM, Except.mapM_eq_error]
  simp only [exists_declaration, FirstBad]

end ClassField

/-! ## Classes -/

namespace RecordClass

/-- A class is mistyped at a field if it is the first that is not declared, and is mistyped. -/
def MistypedAt (c : RecordClass) (field : String) : Prop :=
  FirstBad ClassField.IsDeclared (fun f => f.Mistyped ∧ f.name = field) c.fields

theorem tableName_ne_null (c : RecordClass) : c.tableName ≠ .null := by
  rw [tableName]
  cases htable : c.table.filter Value.isTruthy with
  | none => simp
  | some v =>
    rintro rfl
    cases (Option.filter_eq_some_iff.mp htable).2

/-- The name of a table is no name only if it is the empty text. -/
theorem tableName_of_not_truthy {c : RecordClass} (h : ¬ c.tableName.isTruthy = true) :
    c.tableName = .str "" := by
  rw [tableName] at h ⊢
  cases htable : c.table.filter Value.isTruthy with
  | none =>
    rw [htable] at h
    simpa [Value.isTruthy] using h
  | some v =>
    rw [htable] at h
    exact absurd (Option.filter_eq_some_iff.mp htable).2 h

variable {c : RecordClass}

theorem withModel_tableName {e : DeclError} (h : e.model = none) :
    (e.withModel c.tableName).model = some c.tableName := by
  rw [DeclError.withModel, h, Option.none_or]
  exact Value.given?_of_ne_null c.tableName_ne_null

/-- The refusal of a mistyped field names the table of the class. -/
theorem declaredFields_eq_refused {e : DeclError} (h : c.declaredFields = .error (.declaration e)) :
    ∃ field, c.MistypedAt field ∧ e.model = some c.tableName ∧ e.field = some (.str field) := by
  obtain ⟨e', he', hmodel⟩ := Except.mapError_eq_error.mp h
  obtain ⟨pre, f, post, hsplit, hpre, hf⟩ := ClassField.declarations_eq_error.mp he'
  cases e' with
  | declaration e' =>
    obtain ⟨hmistyped, hnone, hfield⟩ := ClassField.declaration_eq_refused hf
    obtain rfl := Fault.declaration.inj hmodel
    exact ⟨f.name, ⟨pre, f, post, hsplit, hpre, hmistyped, rfl⟩, withModel_tableName hnone, hfield⟩
  | _ => cases hmodel

theorem MistypedAt.declaredFields {field : String} (h : c.MistypedAt field) :
    ∃ e, c.declaredFields = .error (.declaration e) ∧ e.model = some c.tableName ∧
      e.field = some (.str field) := by
  obtain ⟨pre, f, post, hsplit, hpre, hmistyped, rfl⟩ := h
  obtain ⟨e, he⟩ := hmistyped.declaration
  obtain ⟨-, hnone, hfield⟩ := ClassField.declaration_eq_refused he
  have hall := ClassField.declarations_eq_error.mpr ⟨pre, f, post, hsplit, hpre, he⟩
  refine ⟨e.withModel c.tableName, ?_, withModel_tableName hnone, hfield⟩
  rw [RecordClass.declaredFields, hall]
  rfl

end RecordClass

end Relvar
