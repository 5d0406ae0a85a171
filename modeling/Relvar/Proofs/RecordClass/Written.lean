/-
Record classes and the fields that are written by hand instead. For each field of a class its
name is written, a type that reads as the type of the field does, and the modifiers: those that
the field gives, then the size and the default that it implies where it gives none. If no field
names its type wrongly, the definition of the class is that of the fields so written, under the
name of the table; and if one is refused, so is the other, for the same reason.
-/
import Relvar.Proofs.Compilation.Phases
import Relvar.Proofs.RecordClass.Field

set_option autoImplicit false

namespace Relvar

/-! ## Implied defaults -/

namespace Value

/-- A value that is a literal: a boolean, a text or an integer. -/
def IsLiteral (v : Value) : Prop :=
  (∃ b, v = .bool b) ∨ v.asText?.isSome = true ∨ v.asInt?.isSome = true

/-- A value that is a member of an enumeration. -/
inductive IsMember : Value → Prop
  | member (enumeration : String) (base : MemberBase) (v : Value) :
      IsMember (.member enumeration base v)
  | fieldType (t : FieldType) : IsMember (.semantic t)

end Value

/-- The default that a preset implies: the present if it reads a clock, a literal, or the literal
that a member of an enumeration stands for. -/
inductive Preset.Implies : Preset Value → Value → Prop
  | clock : Implies .clock (.str "now")
  | literal {v : Value} (single : ¬ v.IsMember) (literal : v.IsLiteral) : Implies (.value v) v
  | member {enumeration : String} {base : MemberBase} {v : Value} (literal : v.IsLiteral) :
      Implies (.value (.member enumeration base v)) v
  | fieldType (t : FieldType) : Implies (.value (.semantic t)) (.str t.name)

theorem Preset.not_implies_required (v : Value) : ¬ Preset.required.Implies v := nofun

theorem ClassField.impliedDefault?_eq_some {p : Preset Value} {v : Value} :
    impliedDefault? p = some v ↔ p.Implies v := by
  have hpayload : ∀ w : Value, impliedDefault? (.value w) = some v ↔
      (payload w).IsLiteral ∧ payload w = v := by
    intro w
    simp only [impliedDefault?, Option.ite_none_right_eq_some, Option.some.injEq,
      Literal.isSome_ofValue, Value.IsLiteral]
  cases p with
  | required => exact ⟨nofun, fun h => absurd h (Preset.not_implies_required v)⟩
  | factory w => exact ⟨nofun, nofun⟩
  | clock =>
    constructor
    · intro h
      obtain rfl := Option.some.inj h
      exact .clock
    · rintro ⟨⟩
      rfl
  | value w =>
    rw [hpayload]
    constructor
    · rintro ⟨hliteral, rfl⟩
      cases w with
      | member e base w => exact .member hliteral
      | semantic t => exact .fieldType t
      | _ => exact .literal nofun hliteral
    · intro h
      cases h with
      | literal single literal =>
        -- only a member and a field type hold another value than themselves
        have hplain : payload v = v := by
          cases v with
          | member e base w => exact absurd (.member e base w) single
          | semantic t => exact absurd (.fieldType t) single
          | _ => rfl
        rw [hplain]
        exact ⟨literal, rfl⟩
      | member literal => exact ⟨literal, rfl⟩
      | fieldType t => exact ⟨.inr (.inl rfl), rfl⟩

/-! ## Written fields -/

namespace ClassField

/-- The names of modifiers, in the order in which they are written. -/
def writtenKeys : List String := ["primary_key", "auto", "unique", "size", "default", "foreign_key"]

/-- The modifier that is written under a name for which values are implied: none if the field
gives one explicitly, and otherwise the value that is implied, if there is one. -/
inductive WritesImplied (f : ClassField) (name : String) (implied : Value → Prop) :
    Option Value → Prop
  | given {v : Value} (given : f.said? name = some v) : WritesImplied f name implied none
  | implied {v : Value} (free : f.said? name = none) (chosen : implied v) :
      WritesImplied f name implied (some v)
  | nothing (nothing : ∀ v, ¬ implied v) : WritesImplied f name implied none

/-- The size that a field implies is its greatest length. -/
def ImpliesSize (f : ClassField) (v : Value) : Prop := ∃ n, f.maxLength = some n ∧ v = .int n

/-- The modifiers that are written for a field: those that are given, in the order of the names,
then the size and the default. -/
inductive WritesModifiers (f : ClassField) : List (String × Value) → Prop
  | intro {size default : Option Value} (size_implied : f.WritesImplied "size" f.ImpliesSize size)
      (default_implied : f.WritesImplied "default" f.preset.Implies default) :
      WritesModifiers f ((writtenKeys.filterMap fun name => (f.said? name).map (name, ·)) ++
        (size.map ("size", ·)).toList ++ (default.map ("default", ·)).toList)

/-- The types that are written for a field: the annotation if the field does not name its type;
otherwise all that read as the type it names, and as optional exactly if the annotation is. -/
inductive WritesType (f : ClassField) : Value → Prop
  | annotated (free : f.typeNamed? = none) : WritesType f f.annotation
  | named {v w : Value} {t : FieldType} {nullable : Bool} (named : f.typeNamed? = some v)
      (names : TypeName.Names v t) (reads : TypeName.Reads w t nullable)
      (optional : nullable = true ↔ TypeName.IsOptional f.annotation) : WritesType f w

/-- The items of a list that are written for a field. -/
inductive Writes (f : ClassField) : Value → Prop
  | triple {w : Value} {ms : List (String × Value)} (type : f.WritesType w)
      (modifiers : f.WritesModifiers ms) :
      Writes f (.tuple [.str f.name, w, .dict (Dict.ofStrings ms)])

variable {f : ClassField} {w w' v : Value} {ms : List (String × Value)}

/-! ## Modifiers -/

/-- A modifier that is implied comes with the field exactly as it is written. -/
theorem WritesImplied.eq (key : ModifierKey) {implied : Value → Prop}
    {found written : Option Value} (h : f.WritesImplied key.name implied written)
    (hfound : ∀ v, found = some v ↔ implied v) :
    (unlessGiven f.givenModifiers key found).map (fun m => (m.1.name, m.2)) =
      (written.map (key.name, ·)).toList := by
  -- both sides are empty if the field gives the modifier, and what is implied otherwise
  by_cases hgiven : key ∈ f.givenModifiers.map Prod.fst
  · rw [unlessGiven_of_mem hgiven]
    cases h with
    | implied free chosen =>
      obtain ⟨v, hv⟩ := mem_keys_givenModifiers.mp hgiven
      rw [free] at hv
      cases hv
    | _ => rfl
  · rw [unlessGiven_of_not_mem hgiven]
    cases h with
    | given given => exact absurd (mem_keys_givenModifiers.mpr ⟨_, given⟩) hgiven
    | implied free chosen =>
      rw [(hfound _).mpr chosen]
      rfl
    | nothing nothing =>
      have hnone : found = none :=
        Option.eq_none_iff_forall_ne_some.mpr fun v hv => nothing v ((hfound v).mp hv)
      rw [hnone]
      rfl

/-- The modifiers that are written are those of the field. -/
theorem WritesModifiers.eq (h : f.WritesModifiers ms) : ms = f.entries := by
  obtain ⟨hsize, hdefault⟩ := h
  have hgiven : (writtenKeys.filterMap fun name => (f.said? name).map (name, ·)) =
      f.givenModifiers.map fun m => (m.1.name, m.2) := by
    -- the keys stand in one order, in which they are both written and given
    have hkeys : writtenKeys = ModifierKey.all.map ModifierKey.name := rfl
    rw [hkeys, List.filterMap_map, givenModifiers, List.map_filterMap]
    refine List.filterMap_congr fun k _ => ?_
    simp only [Function.comp_apply, Option.map_map]
    rfl
  have hbound : ∀ v, f.maxLength.map Value.int = some v ↔ f.ImpliesSize v := by
    intro v
    simp only [ImpliesSize, Option.map_eq_some_iff, eq_comm]
  rw [entries, modifiers_eq, List.map_append, List.map_append, ← hgiven]
  rw [WritesImplied.eq .size hsize hbound,
    WritesImplied.eq .default hdefault fun v => impliedDefault?_eq_some]
  rfl

/-- Modifiers can be written for every field. -/
theorem exists_writesModifiers (f : ClassField) : ∃ ms, f.WritesModifiers ms := by
  have hexists : ∀ (name : String) (implied : Value → Prop),
      ∃ written, f.WritesImplied name implied written := by
    intro name implied
    cases hsaid : f.said? name with
    | some v => exact ⟨none, .given hsaid⟩
    | none =>
      -- whether a value is implied is not decided by a test, so both answers are taken up
      by_cases himplied : ∃ v, implied v
      · obtain ⟨v, hv⟩ := himplied
        exact ⟨some v, .implied hsaid hv⟩
      · exact ⟨none, .nothing fun v hv => himplied ⟨v, hv⟩⟩
  obtain ⟨size, hsize⟩ := hexists "size" f.ImpliesSize
  obtain ⟨default, hdefault⟩ := hexists "default" f.preset.Implies
  exact ⟨_, .intro hsize hdefault⟩

/-! ## Types -/

theorem reads_typeText (t : FieldType) (nullable : Bool) :
    TypeName.Reads (.str (typeText t nullable)) t nullable := by
  rw [← TypeName.ofDeclared_eq_ok]
  cases t <;> cases nullable <;> rfl

/-- The text of the named type is written for a field that is not mistyped. -/
theorem writesType_declaredType (h : f.declaredType = .ok w) : f.WritesType w := by
  cases hnamed : f.typeNamed? with
  | none =>
    rw [declaredType_of_none hnamed] at h
    obtain rfl := Except.ok.inj h
    exact .annotated hnamed
  | some v =>
    rw [declaredType_of_some hnamed] at h
    obtain ⟨⟨inner, nullable⟩, hunwrap, h⟩ := Except.bind_eq_ok.mp h
    obtain ⟨t, hresolve, h⟩ := Except.bind_eq_ok.mp h
    obtain rfl := Except.ok.inj h
    have hnames := TypeName.resolve?_eq_some.mp (TypeName.resolve_eq_ok.mp hresolve)
    refine .named hnamed hnames (reads_typeText t nullable) ?_
    rw [← TypeName.exists_unwrap_true, hunwrap]
    simp

/-- All types that are written for a field read as the same type. -/
theorem WritesType.ofDeclared_eq (h : f.WritesType w) (h' : f.WritesType w') :
    FieldType.ofDeclared w = FieldType.ofDeclared w' := by
  cases h with
  -- a field that names no type has one spelling; one that does has many, of the same type
  | annotated free =>
    cases h' with
    | annotated => rfl
    | named named => rw [free] at named; cases named
  | named named names reads optional =>
    cases h' with
    | annotated free => rw [free] at named; cases named
    | named named' names' reads' optional' =>
      obtain rfl := Option.some.inj (named.symm.trans named')
      obtain rfl := names.unique names'
      have hsame := Bool.eq_iff_iff.mpr (optional.trans optional'.symm)
      rw [TypeName.ofDeclared_eq_ok.mpr reads, TypeName.ofDeclared_eq_ok.mpr reads', hsame]

/-! ## Declared fields -/

/-- A field is extracted by its name, what its type reads as, and its modifiers. -/
theorem extract_congr {name : String} (h : FieldType.ofDeclared w = FieldType.ofDeclared w') :
    Field.extract ⟨name, w, ms⟩ = Field.extract ⟨name, w', ms⟩ := by
  rw [Field.extract, Field.extract, Field.ofParts, Field.ofParts, h]

/-- An item can be written for every field that is not mistyped. -/
theorem exists_writes (h : ¬ f.Mistyped) : ∃ v, f.Writes v := by
  obtain ⟨w, hw⟩ := exists_declaredType h
  obtain ⟨ms, hms⟩ := f.exists_writesModifiers
  exact ⟨_, .triple (writesType_declaredType hw) hms⟩

/-- A field and the item that is written for it declare fields that are extracted in the same
way. -/
theorem Writes.exists_declared (h : f.Writes v) (hf : f.IsDeclared) (model : Value) :
    ∃ d d', f.declaration = .ok d ∧ FieldDecl.ofItem model v = .ok d' ∧
      Field.extract d = Field.extract d' := by
  obtain ⟨w, hw⟩ := exists_declaredType hf.1
  cases h with
  | @triple w' ms type modifiers =>
    obtain rfl := modifiers.eq
    -- the two differ in how the type is written, and in nothing else
    refine ⟨_, _, declaration_of_ok hw hf.2, ?_,
      extract_congr ((writesType_declaredType hw).ofDeclared_eq type)⟩
    have hname : FieldDecl.isName (.str f.name) = true := by
      simpa [FieldDecl.isName, Value.asText?] using hf.2
    rw [FieldDecl.ofItem, if_pos hname, FieldDecl.ofTriple]
    simp only [Value.asMapping?]
    rw [FieldDecl.ofValues_ofStrings hf.2 w' f.nodup_entries]
    rfl

/-- So do several fields. -/
theorem exists_declarations {fs : List ClassField} {items : List Value}
    (h : List.Forall₂ Writes fs items) (hfs : ∀ f ∈ fs, f.IsDeclared) (model : Value) :
    ∃ ds ds', declarations fs = .ok ds ∧ FieldDecl.ofItems model items = .ok ds' ∧
      Field.extractAll ds = Field.extractAll ds' := by
  -- the items are written one for each field, so both lists are read in step
  induction h with
  | nil => exact ⟨[], [], rfl, rfl, rfl⟩
  | @cons f v fs items hv _ ih =>
    obtain ⟨hf, hrest⟩ := List.forall_mem_cons.mp hfs
    obtain ⟨d, d', hd, hd', hextract⟩ := hv.exists_declared hf model
    obtain ⟨ds, ds', hds, hds', hextracts⟩ := ih hrest
    refine ⟨d :: ds, d' :: ds', ?_, ?_, ?_⟩
    · rw [declarations, hd, hds]
      rfl
    · rw [FieldDecl.ofItems, hd', hds']
      rfl
    · rw [Field.extractAll, Field.extractAll, hextract, hextracts]

end ClassField

/-! ## Classes -/

namespace RecordClass

/-- A class in which every type that a field names is a field type, on an annotation that is no
union or is optional. -/
def IsPlain (c : RecordClass) : Prop :=
  ∀ f : ClassField, f ∈ c.fields → ∀ v, f.typeNamed? = some v →
    (∃ t, TypeName.Names v t) ∧
      (TypeName.IsUnion f.annotation → TypeName.IsOptional f.annotation)

/-- A class of which the table and every field has a name. -/
def IsNamed (c : RecordClass) : Prop :=
  c.tableName.isTruthy = true ∧ ∀ f ∈ c.fields, f.name ≠ ""

variable {c : RecordClass} {items : List Value}

theorem IsPlain.not_mistyped (h : c.IsPlain) {f : ClassField} (hf : f ∈ c.fields) :
    ¬ f.Mistyped := by
  rintro ⟨v, hv, ⟨hunion, hplain⟩ | hnone⟩
  · exact hplain ((h f hf v hv).2 hunion)
  · obtain ⟨t, ht⟩ := (h f hf v hv).1
    exact hnone t ht

/-- What is declared under the name of a table is extracted alike if its fields are. -/
theorem named_extract_congr {name : Value} {ds ds' : List FieldDecl}
    (h : Field.extractAll ds = Field.extractAll ds') :
    (ModelDecl.named name ds).bind Definition.extract =
      (ModelDecl.named name ds').bind Definition.extract := by
  rw [ModelDecl.named_eq, ModelDecl.named_eq]
  cases name.checkName [.name "name"] with
  | error es => rfl
  | ok n => simp only [Except.bind, Definition.extract, h]

/-- A class that is not renamed is what it declares. -/
theorem ofSource_unnamed (c : RecordClass) :
    ModelDecl.ofSource (.recordClass c) .null = c.declaration := by
  show c.declaration.map (ModelDecl.renamed .null) = c.declaration
  cases c.declaration <;> rfl

/-- The definition of a class is that of the fields that are written for it. -/
theorem extract_written (hplain : c.IsPlain) (hnamed : c.IsNamed)
    (h : List.Forall₂ ClassField.Writes c.fields items) :
    (ModelDecl.ofSource (.recordClass c) .null).bind Definition.extract =
      (ModelDecl.ofSource (.list items) c.tableName).bind Definition.extract := by
  obtain ⟨htable, hnames⟩ := hnamed
  have hdeclared : ∀ f ∈ c.fields, ClassField.IsDeclared f :=
    fun f hf => ⟨hplain.not_mistyped hf, hnames f hf⟩
  obtain ⟨ds, ds', hds, hds', hextract⟩ :=
    ClassField.exists_declarations h hdeclared c.tableName
  -- a class and a list of items are read apart, and meet in the fields that they declare
  have hclass : c.declaration = ModelDecl.named c.tableName ds := by
    rw [declaration, declaredFields, hds]
    rfl
  have hlist : ModelDecl.ofSource (.list items) c.tableName =
      ModelDecl.named c.tableName ds' := by
    show ModelDecl.ofFields (.list items) c.tableName = _
    rw [ModelDecl.ofFields, if_pos htable, ModelDecl.fieldsOf, hds']
    rfl
  rw [ofSource_unnamed, hclass, hlist, named_extract_congr hextract]

/-- A class without a name somewhere is not valid. -/
theorem invalid_of_unnamed (hplain : c.IsPlain) (hnamed : ¬ c.IsNamed) :
    ∃ i, (ModelDecl.ofSource (.recordClass c) .null).bind Definition.extract =
      .error (.invalid i) := by
  rw [ofSource_unnamed]
  cases hds : ClassField.declarations c.fields with
  | error e =>
    obtain ⟨pre, f, post, hsplit, -, hf⟩ := ClassField.declarations_eq_error.mp hds
    have hmem : f ∈ c.fields := hsplit ▸ List.mem_append_right _ List.mem_cons_self
    obtain ⟨i, rfl⟩ := ClassField.declaration_eq_invalid (hplain.not_mistyped hmem) hf
    refine ⟨i, ?_⟩
    rw [declaration, declaredFields, hds]
    rfl
  | ok ds =>
    -- every field is declared, so it is the table that has no name
    have hnames : ∀ f ∈ c.fields, f.name ≠ "" := by
      intro f hf
      obtain ⟨d, -, hd⟩ := forall₂_mem_left (ClassField.declarations_eq_ok.mp hds) hf
      exact (ClassField.exists_declaration.mp ⟨d, hd⟩).2
    have htable := tableName_of_not_truthy fun htruthy => hnamed ⟨htruthy, hnames⟩
    rw [declaration, declaredFields, hds, htable]
    exact ⟨_, rfl⟩

/-- **A class and the fields written for it.** In a class that names the types of its fields
rightly, an item can be written for every field. The definition of the class is that of the list
of such items under the name of the table, whichever are written: both end with the same
definition or with the same refusal. A class or a field with the empty text for a name cannot be
written as a list, and then the class has no definition either, because it is not valid. -/
theorem define_written (c : RecordClass) (hplain : c.IsPlain) (s t : Session) :
    (∃ items, List.Forall₂ ClassField.Writes c.fields items) ∧
    (c.IsNamed → ∀ items, List.Forall₂ ClassField.Writes c.fields items →
      ((Compiler.define (.recordClass c) .null).run s).1 =
        ((Compiler.define (.list items) c.tableName).run t).1) ∧
    (¬ c.IsNamed →
      ∃ i, ((Compiler.define (.recordClass c) .null).run s).1 = .error (.invalid i)) := by
  rw [(Compiler.define_answers _ _).outcome s]
  refine ⟨?_, fun hnamed items hitems => ?_, invalid_of_unnamed hplain⟩
  · rw [exists_forall₂_iff]
    exact fun f hf => ClassField.exists_writes (hplain.not_mistyped hf)
  · rw [(Compiler.define_answers _ _).outcome t]
    exact extract_written hplain hnamed hitems

end RecordClass

/-- A record class with types that are named, one of them on an optional annotation, a member of
an enumeration for a default, and a default that reads the clock. -/
def articleClass : RecordClass :=
  ⟨"Article", some (.str "articles"), [
    ⟨"id", .type (.named .int), .required, none, none,
      [(.str "label", .str "Key"), (.str "sql_type", .str "Serial"),
        (.str "primary_key", .bool true)]⟩,
    ⟨"status", .type (.union false [.named .str, .named .none]),
      .value (.member "Status" .text (.str "draft")), none, some 20,
      [(.str "sql_type", .str "String")]⟩,
    ⟨"created_at", .type (.named .datetime), .clock, none, none, []⟩]⟩

/-- The same fields, as they are written by hand. -/
def articleItems : List Value :=
  [.tuple [.str "id", .str "Serial", .dict [(.str "primary_key", .bool true)]],
    .tuple [.str "status", .str "Option<String>",
      .dict [(.str "size", .int 20), (.str "default", .str "draft")]],
    .tuple [.str "created_at", .type (.named .datetime), .dict [(.str "default", .str "now")]]]

theorem isOptional_status :
    TypeName.IsOptional (.type (.union false [.named .str, .named .none])) :=
  .union (m := .named .str) (by simp) (.inl rfl)

theorem articleClass_isPlain : articleClass.IsPlain := by
  simp only [RecordClass.IsPlain, articleClass, List.forall_mem_cons]
  refine ⟨fun v hv => ?_, fun v hv => ?_, fun v hv => ?_, nofun⟩
  · obtain rfl : Value.str "Serial" = v := Option.some.inj hv
    exact ⟨⟨.serial, .name rfl⟩, nofun⟩
  · obtain rfl : Value.str "String" = v := Option.some.inj hv
    exact ⟨⟨.string, .name rfl⟩, fun _ => isOptional_status⟩
  · cases hv

theorem articleItems_written :
    List.Forall₂ ClassField.Writes articleClass.fields articleItems := by
  refine .cons (@ClassField.Writes.triple _ _ [("primary_key", .bool true)] ?_ ?_)
    (.cons (@ClassField.Writes.triple _ _ [("size", .int 20), ("default", .str "draft")] ?_ ?_)
      (.cons (@ClassField.Writes.triple _ _ [("default", .str "now")] ?_ ?_) .nil))
  · have hreads : TypeName.Reads (.str "Serial") .serial false :=
      TypeName.ofDeclared_eq_ok.mp (by rfl)
    refine .named (v := .str "Serial") rfl (.name rfl) hreads (iff_of_false nofun ?_)
    rintro (_ | ⟨text, -⟩)
    cases text
  · exact .intro (.nothing (by simp [ClassField.ImpliesSize]))
      (.nothing Preset.not_implies_required)
  · have hreads : TypeName.Reads (.str "Option<String>") .string true :=
      TypeName.ofDeclared_eq_ok.mp (by rfl)
    exact .named (v := .str "String") rfl (.name rfl) hreads (iff_of_true rfl isOptional_status)
  · exact .intro (.implied rfl ⟨20, rfl, rfl⟩) (.implied rfl (.member (.inr (.inl rfl))))
  · exact .annotated rfl
  · exact .intro (.nothing (by simp [ClassField.ImpliesSize])) (.implied rfl .clock)

theorem define_written_article :
    articleClass.IsPlain ∧ articleClass.IsNamed ∧
      List.Forall₂ ClassField.Writes articleClass.fields articleItems ∧
      ∃ d, ((Compiler.define (.recordClass articleClass) .null).run calmSession).1 = .ok d ∧
        ((Compiler.define (.list articleItems) (.str "articles")).run calmSession).1 = .ok d := by
  have hnamed : articleClass.IsNamed := ⟨by decide, by decide⟩
  obtain ⟨-, hwritten, -⟩ :=
    articleClass.define_written articleClass_isPlain calmSession calmSession
  have hsame := hwritten hnamed articleItems articleItems_written
  have hdefined :
      ∃ d, ((Compiler.define (.list articleItems) (.str "articles")).run calmSession).1 =
        .ok d := by
    rw [(Compiler.define_answers _ _).outcome calmSession]
    exact ⟨_, rfl⟩
  obtain ⟨d, hd⟩ := hdefined
  exact ⟨articleClass_isPlain, hnamed, articleItems_written, d, hsame.trans hd, hd⟩

end Relvar
