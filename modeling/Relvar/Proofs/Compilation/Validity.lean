/-
Which declared models are compiled, and what the others are refused for. A field
passes four stages: its type names a field type, its modifiers are valid, it is
not a second key, and it does not default to the present unless it is temporal. A
model is compiled if all of its fields pass, in their order, and it has a field
and, where one is asked for, a key. Otherwise the first stage that is not passed
refuses it, by the name of the model and of the field.
-/
import Relvar.Proofs.Compilation.Result
import Relvar.Proofs.Field.Modifier
import Relvar.Proofs.Field.TypeName
import Relvar.Proofs.Shapes
import Relvar.Proofs.Value.Text

set_option autoImplicit false

namespace Relvar

/-! ## Stages -/

namespace FieldDecl

/-- Whether a field is declared to be the key. -/
def IsMarked (f : FieldDecl) : Prop :=
  Modifier.said f.modifiers "primary_key" = some (.bool true)

/-- Whether a field is declared to default to the present. -/
def DefaultsToNow (f : FieldDecl) : Prop :=
  ∃ v, Modifier.said f.modifiers "default" = some v ∧ v.asText? = some "now"

/-- A field passes after the fields in front of it. -/
structure Passes (earlier : List FieldDecl) (f : FieldDecl) : Prop where
  type : ∃ t nullable, TypeName.Reads f.type t nullable
  modifiers : ∀ m ∈ f.modifiers, Modifier.Valid m.1 m.2
  key : f.IsMarked → ∀ g ∈ earlier, ¬ IsMarked g
  present : f.DefaultsToNow →
    ∃ nullable, TypeName.Reads f.type .date nullable ∨ TypeName.Reads f.type .dateTime nullable

/-- A field is refused after the fields in front of it: it passes the stages in front
of one, and does not pass that one. -/
inductive Refused (earlier : List FieldDecl) (f : FieldDecl) : ErrorCode → Cause → Prop
  | type {c : Cause} (unread : ∀ t nullable, ¬ TypeName.Reads f.type t nullable)
      (code : c.code = .unsupportedFieldType) : Refused earlier f .unsupportedFieldType c
  | modifier {t : FieldType} {nullable : Bool} {pre post : List (String × Value)} {name : String}
      {v : Value} (type : TypeName.Reads f.type t nullable)
      (split : f.modifiers = pre ++ (name, v) :: post)
      (before : ∀ m ∈ pre, Modifier.Valid m.1 m.2) (invalid : ¬ Modifier.Valid name v) :
      Refused earlier f
        (if name = "foreign_key" ∧ v.asText?.isSome then .invalidForeignKey else .invalidModifier)
        (Modifier.refusal name v)
  | key {t : FieldType} {nullable : Bool} {g : FieldDecl} (type : TypeName.Reads f.type t nullable)
      (modifiers : ∀ m ∈ f.modifiers, Modifier.Valid m.1 m.2) (marked : f.IsMarked)
      (mem : g ∈ earlier) (first : g.IsMarked) :
      Refused earlier f .multiplePrimaryKeys (.secondKey g.name)
  | present {t : FieldType} {nullable : Bool} (type : TypeName.Reads f.type t nullable)
      (modifiers : ∀ m ∈ f.modifiers, Modifier.Valid m.1 m.2)
      (key : f.IsMarked → ∀ g ∈ earlier, ¬ IsMarked g) (now : f.DefaultsToNow)
      (not_date : t ≠ .date) (not_dateTime : t ≠ .dateTime) :
      Refused earlier f .invalidDefault (.nowNotTemporal t)

end FieldDecl

namespace ModelDecl

/-- A declared model as validation leaves one: it has a name, and so has each of its
fields. -/
structure WellFormed (d : ModelDecl) : Prop where
  name : ∃ n, d.name = .str n ∧ n ≠ ""
  fieldName : ∀ f ∈ d.fields, f.name ≠ ""

/-- A declared model whose name spells text. -/
def IsNamed (d : ModelDecl) : Prop := ∃ n, d.name.checkName [.name "name"] = .ok n

/-- Every field passes after the fields in front of it. -/
def AllPass (fs : List FieldDecl) : Prop :=
  ∀ pre f post, fs = pre ++ f :: post → FieldDecl.Passes pre f

/-- A declared model that is compiled under settings. -/
structure Valid (settings : CompilerSettings) (d : ModelDecl) : Prop where
  fields : d.fields ≠ []
  passes : AllPass d.fields
  key : settings.requiresKey = true → ∃ f ∈ d.fields, FieldDecl.IsMarked f

/-- What a declared model is refused for under settings: the first thing that is wrong
with it, and the field that it is wrong with. -/
inductive Refused (settings : CompilerSettings) (d : ModelDecl) :
    ErrorCode → Cause → Option Value → Prop
  | noFields (fields : d.fields = []) : Refused settings d .unsupportedShape .noFields none
  | field {pre post : List FieldDecl} {f : FieldDecl} {code : ErrorCode} {c : Cause}
      (split : d.fields = pre ++ f :: post) (before : AllPass pre)
      (refused : FieldDecl.Refused pre f code c) : Refused settings d code c (some (.str f.name))
  | missingKey (fields : d.fields ≠ []) (passes : AllPass d.fields)
      (required : settings.requiresKey = true)
      (unmarked : ∀ f ∈ d.fields, ¬ FieldDecl.IsMarked f) :
      Refused settings d .missingPrimaryKey .missingKey none

end ModelDecl

/-! ## Validation -/

theorem Checked.with_eq_ok {α β : Type} {build : Checked (α → β)} {part : Checked α} {b : β}
    (h : build.with part = .ok b) : ∃ f a, build = .ok f ∧ part = .ok a ∧ f a = b := by
  unfold Checked.with at h
  split at h
  · next f a => exact ⟨f, a, rfl, rfl, Except.ok.inj h⟩
  · cases h

/-- A declared field that is built has a name. -/
theorem FieldDecl.name_ne_of_check {place : List Place} {name declared modifiers : Option Value}
    {f : FieldDecl} (h : check place name declared modifiers = .ok f) : f.name ≠ "" := by
  obtain ⟨withType, _, htype, -, rfl⟩ := Checked.with_eq_ok h
  obtain ⟨withName, _, hname, -, rfl⟩ := Checked.with_eq_ok htype
  obtain ⟨build, s, hbuild, hs, rfl⟩ := Checked.with_eq_ok hname
  obtain rfl := Except.ok.inj hbuild
  unfold checkPart at hs
  split at hs
  · exact Value.checkName_ne hs
  · cases hs

/-- Declared fields that are built have names, if the declared fields among the values have. -/
theorem ModelDecl.name_ne_of_checkFields {vs : List Value} {i : Nat} {fs : List FieldDecl}
    (h : checkFields i vs = .ok fs) (hvs : ∀ f : FieldDecl, .field f ∈ vs → f.name ≠ "") :
    ∀ f ∈ fs, f.name ≠ "" := by
  -- the index only goes into the place of an offence, so it is left general
  induction vs generalizing i fs with
  | nil =>
    obtain rfl := Except.ok.inj h
    simp
  | cons v vs ih =>
    unfold checkFields at h
    split at h
    · next f fs' hf hfs =>
      obtain rfl := Except.ok.inj h
      refine List.forall_mem_cons.mpr ⟨?_, ih hfs fun g hg => hvs g (List.mem_cons_of_mem _ hg)⟩
      unfold checkField at hf
      split at hf
      · obtain rfl := Except.ok.inj hf
        exact hvs _ List.mem_cons_self
      · exact FieldDecl.name_ne_of_check hf
      · cases hf
    · cases h

/-- A declared model that is built is well formed, if the declared fields among the
values are. -/
theorem ModelDecl.wellFormed_ofValues {name : Value} {fields : List Value} {d : ModelDecl}
    (h : ofValues name fields = .ok d)
    (hfields : ∀ f : FieldDecl, .field f ∈ fields → f.name ≠ "") : d.WellFormed := by
  unfold ofValues at h
  split at h
  · next n fs hn hfs =>
    obtain rfl := Except.ok.inj h
    exact ⟨⟨n, rfl, Value.checkName_ne hn⟩, name_ne_of_checkFields hfs hfields⟩
  · cases h

/-- A source stands for a declared model whose name spells text, if the declared model that
is given has such a name, or the name that is given is text. -/
theorem ModelDecl.isNamed_ofSource {source name : Value} {d : ModelDecl}
    (hsource : ∀ m : ModelDecl, source = .model m → m.IsNamed)
    (hname : name = .null ∨ name.asText?.isSome) (h : ofSource source name = .ok d) :
    d.IsNamed := by
  refine name_ofSource (P := fun v => ∃ n, v.checkName [.name "name"] = .ok n) hsource
    (fun n hn => ⟨n, by rw [Value.checkName_str, if_neg hn]⟩) (fun htruthy => ?_) h
  rcases hname with rfl | htext
  · cases htruthy
  · exact Value.checkName_of_asText? htext htruthy

/-! ## Extracted fields -/

namespace TypeName

/-- A declared type names one field type at most. -/
theorem Reads.unique {v : Value} {t t' : FieldType} {b b' : Bool} (h : Reads v t b)
    (h' : Reads v t' b') : t = t' ∧ b = b' := by
  rw [← ofDeclared_eq_ok] at h h'
  simpa [h] using h'

end TypeName

/-- A field that a declared field stands for: it has its name, its type and its
default, and its modifiers were valid. -/
structure Field.IsExtractOf (x : FieldDecl) (f : Field) : Prop where
  name : f.name = x.name
  type : TypeName.Reads x.type f.type f.nullable
  modifiers : ∀ m ∈ x.modifiers, Modifier.Valid m.1 m.2
  marked : f.isPrimaryKey = true ↔ x.IsMarked
  default : (f.hasDefault, f.default) =
    ((Modifier.said x.modifiers "default").map fun v => (true, Literal.ofValue? v)).getD
      (false, none)

namespace Field

variable {x : FieldDecl} {f : Field}

theorem extract_eq_ok (h : extract x = .ok f) : f.IsExtractOf x := by
  obtain ⟨t, nullable, ms, htype, hms, rfl⟩ := extract_eq_ok_iff.mp h
  have hvalid := Modifier.ofEntries_eq_ok.mp ⟨ms, hms⟩
  obtain ⟨hname, hft, hnull⟩ := Modifier.foldl_apply_plain ms (plain x.name t nullable)
  refine ⟨hname, ?_, hvalid, ?_, Modifier.default_foldl hms⟩
  · rw [hft, hnull]
    exact TypeName.ofDeclared_eq_ok.mp htype
  · rw [Modifier.isPrimaryKey_foldl hms, FieldDecl.IsMarked]
    cases hs : Modifier.said x.modifiers "primary_key" with
    | none => simp [plain]
    | some v =>
      obtain ⟨b, rfl⟩ := (hvalid _ (Modifier.mem_of_said hs)).exists_bool List.mem_cons_self
      simp [Value.isTruthy]

/-- A declared field stands for a field unless its type is not read, or a modifier is
not valid. -/
theorem extract_eq_error {e : DeclError} (earlier : List FieldDecl) (h : extract x = .error e) :
    ∃ code c, e = ⟨c, none, some (.str x.name)⟩ ∧ c.code = code ∧ x.Refused earlier code c := by
  obtain ⟨c, hparts, rfl⟩ := Except.mapError_eq_error.mp h
  rcases Except.bind_eq_error.mp hparts with htype | ⟨⟨t, nullable⟩, htype, hparts⟩
  · have hcode := TypeName.code_of_ofDeclared htype
    -- no type is read, for a type that is read would have been taken
    refine ⟨_, c, rfl, hcode, .type (fun t nullable hreads => ?_) hcode⟩
    rw [TypeName.ofDeclared_eq_ok.mpr hreads] at htype
    cases htype
  · have hreads := TypeName.ofDeclared_eq_ok.mp htype
    rcases Except.bind_eq_error.mp hparts with hms | ⟨ms, -, hms⟩
    · obtain ⟨pre, name, v, post, hsplit, hpre, hv, rfl⟩ := Modifier.ofEntries_eq_error hms
      refine ⟨_, _, rfl, ?_, .modifier hreads hsplit hpre hv⟩
      exact Modifier.code_refusal name v
    · cases hms

theorem IsExtractOf.default_eq_none (h : f.IsExtractOf x)
    (hs : Modifier.said x.modifiers "default" = none) : f.hasDefault = false := by
  have hdefault := h.default
  rw [hs] at hdefault
  exact congrArg Prod.fst hdefault

/-- A default that is declared is a literal. -/
theorem IsExtractOf.default_eq_some {v : Value} (h : f.IsExtractOf x)
    (hs : Modifier.said x.modifiers "default" = some v) :
    ∃ l, Literal.ofValue? v = some l ∧ f.hasDefault = true ∧ f.default = some l := by
  obtain ⟨l, hl⟩ := Option.isSome_iff_exists.mp
    ((h.modifiers _ (Modifier.mem_of_said hs)).isSome_literal rfl)
  have hdefault := h.default
  rw [hs] at hdefault
  obtain ⟨hhas, hdefault⟩ := Prod.mk.inj hdefault
  exact ⟨l, hl, hhas, hdefault.trans hl⟩

/-- The default of a column is refused only if it is the present, and the field is not
temporal. -/
theorem columnDefault_outcome {l : Literal} (h : f.default = some l) :
    (∃ d, f.columnDefault = .ok d ∧ (l = .str "now" → f.type = .date ∨ f.type = .dateTime)) ∨
    f.columnDefault = .error (.declaration ⟨.nowNotTemporal f.type, none, some (.str f.name)⟩) ∧
      l = .str "now" ∧ f.type ≠ .date ∧ f.type ≠ .dateTime := by
  cases l with
  | bool b => exact .inl ⟨_, by rw [columnDefault, h], by simp⟩
  | int n => exact .inl ⟨_, by rw [columnDefault, h], by simp⟩
  -- of all texts only the one for the present is looked at together with the type
  | str s =>
    by_cases hs : s = nowKeyword
    · simp only [columnDefault, h, hs, if_true]
      cases ht : f.type <;> simp [nowKeyword]
    · refine .inl ⟨.text s, by simp [columnDefault, h, hs], fun heq => ?_⟩
      exact absurd (Literal.str.inj heq) hs

/-- The clause of a field is written, unless the field defaults to the present and is
not temporal. -/
theorem IsExtractOf.ownClause_outcome (settings : CompilerSettings) (h : f.IsExtractOf x) :
    (∃ clause, f.ownClause settings = .ok clause ∧
      (x.DefaultsToNow → f.type = .date ∨ f.type = .dateTime)) ∨
    f.ownClause settings =
        .error (.declaration ⟨.nowNotTemporal f.type, none, some (.str f.name)⟩) ∧
      x.DefaultsToNow ∧ f.type ≠ .date ∧ f.type ≠ .dateTime := by
  rw [ownClause_eq]
  cases hs : Modifier.said x.modifiers "default" with
  | none =>
    refine .inl ⟨(f.ownColumn settings none).clause, by rw [h.default_eq_none hs]; rfl, ?_⟩
    rintro ⟨v, hv, -⟩
    rw [hs] at hv
    cases hv
  | some v =>
    obtain ⟨l, hl, hhas, hdefault⟩ := h.default_eq_some hs
    -- the field says of its default what the declaration says
    have hnow : x.DefaultsToNow ↔ l = .str "now" := by
      rw [Literal.ofValue?_eq_str hl, FieldDecl.DefaultsToNow, hs]
      simp
    rw [hhas, if_pos rfl, hnow]
    rcases columnDefault_outcome hdefault with ⟨d, hd, htype⟩ | ⟨hd, hl', htype⟩
    · exact .inl ⟨(f.ownColumn settings (some d)).clause, by rw [hd]; rfl, htype⟩
    · exact .inr ⟨by rw [hd]; rfl, hl', htype⟩

end Field

/-! ## Refusals -/

namespace FieldDecl

variable {earlier : List FieldDecl} {x : FieldDecl} {code : ErrorCode} {c : Cause}

/-- A field that is refused does not pass. -/
theorem Refused.not_passes (h : x.Refused earlier code c) : ¬ x.Passes earlier := by
  intro hpass
  cases h with
  | type unread =>
    obtain ⟨t, nullable, hreads⟩ := hpass.type
    exact unread t nullable hreads
  | modifier type split before invalid =>
    have hmem := split ▸ List.mem_append_right _ List.mem_cons_self
    exact invalid (hpass.modifiers _ hmem)
  | key type modifiers marked mem first => exact hpass.key marked _ mem first
  | present type modifiers key now not_date not_dateTime =>
    obtain ⟨nullable, hdate | hdate⟩ := hpass.present now
    · exact not_date (type.unique hdate).1
    · exact not_dateTime (type.unique hdate).1

/-- A field is refused for one reason, up to what is said of an unread type. -/
theorem Refused.unique {code' : ErrorCode} {c' : Cause} (h : x.Refused earlier code c)
    (h' : x.Refused earlier code' c') : code = code' := by
  -- each stage is reached only if the stages in front of it pass, so two different reasons
  -- contradict one another; within the modifiers the first that is not valid is one entry
  cases h with
  | type unread =>
    cases h' with
    | type => rfl
    | modifier type | key type | present type => exact absurd type (unread _ _)
  | modifier type split before invalid =>
    have hmem := split ▸ List.mem_append_right _ List.mem_cons_self
    cases h' with
    | type unread => exact absurd type (unread _ _)
    | modifier _ split' before' invalid' =>
      have hsplit := split.symm.trans split'
      obtain ⟨-, heq⟩ := first_unique (P := fun _ m => Modifier.Valid m.1 m.2) hsplit
        (fun _ m _ hm => before m (by simp [hm])) invalid
        (fun _ m _ hm => before' m (by simp [hm])) invalid'
      obtain ⟨rfl, rfl⟩ := Prod.mk.inj heq
      rfl
    | key _ modifiers | present _ modifiers => exact absurd (modifiers _ hmem) invalid
  | key type modifiers marked mem first =>
    cases h' with
    | type unread => exact absurd type (unread _ _)
    | modifier _ split _ invalid =>
      have hmem := split ▸ List.mem_append_right _ List.mem_cons_self
      exact absurd (modifiers _ hmem) invalid
    | key => rfl
    | present _ _ key => exact absurd first (key marked _ mem)
  | present type modifiers key now not_date not_dateTime =>
    cases h' with
    | type unread => exact absurd type (unread _ _)
    | modifier _ split _ invalid =>
      have hmem := split ▸ List.mem_append_right _ List.mem_cons_self
      exact absurd (modifiers _ hmem) invalid
    | key _ _ marked mem first => exact absurd first (key marked _ mem)
    | present => rfl

end FieldDecl

/-- A model is refused for one reason and for one field. -/
theorem ModelDecl.Refused.unique {settings : CompilerSettings} {d : ModelDecl}
    {code code' : ErrorCode} {c c' : Cause} {field field' : Option Value}
    (h : d.Refused settings code c field) (h' : d.Refused settings code' c' field') :
    code = code' ∧ field = field' := by
  cases h with
  | noFields fields =>
    cases h' with
    | noFields => exact ⟨rfl, rfl⟩
    | field split => exact absurd (split.symm.trans fields) (by simp)
    | missingKey fields' => exact absurd fields fields'
  | field split before refused =>
    cases h' with
    | noFields fields => exact absurd (split.symm.trans fields) (by simp)
    | field split' before' refused' =>
      -- both are the first field that does not pass
      obtain ⟨rfl, rfl⟩ := first_unique (split.symm.trans split') before refused.not_passes
        before' refused'.not_passes
      exact ⟨refused.unique refused', rfl⟩
    | missingKey _ passes => exact absurd (passes _ _ _ split) refused.not_passes
  | missingKey fields passes required unmarked =>
    cases h' with
    | noFields fields' => exact absurd fields' fields
    | field split before refused => exact absurd (passes _ _ _ split) refused.not_passes
    | missingKey => exact ⟨rfl, rfl⟩

/-- A model that is refused is not valid. -/
theorem ModelDecl.Refused.not_valid {settings : CompilerSettings} {d : ModelDecl}
    {code : ErrorCode} {c : Cause} {field : Option Value} (h : d.Refused settings code c field) :
    ¬ d.Valid settings := by
  intro hvalid
  cases h with
  | noFields fields => exact hvalid.fields fields
  | field split before refused => exact refused.not_passes (hvalid.passes _ _ _ split)
  | missingKey fields passes required unmarked =>
    obtain ⟨f, hf, hmarked⟩ := hvalid.key required
    exact unmarked f hf hmarked

/-! ## The run over the fields -/

section Run

variable {settings : CompilerSettings} {xs : List FieldDecl} {gs : List Field} {d : Draft}

/-- How the compiler reads a declared field. -/
abbrev FieldDecl.read (x : FieldDecl) : Except Fault Field :=
  (Field.extract x).mapError .declaration

theorem FieldDecl.read_eq_ok {x : FieldDecl} {g : Field} (h : x.read = .ok g) :
    g.IsExtractOf x :=
  Field.extract_eq_ok (Except.mapError_eq_ok.mp h)

/-- The fields of a draft have passed. The draft has one key at most and a clause for
each field, so none of them is a second key or a present that is not temporal. -/
theorem Draft.Describes.allPass (h : d.Describes settings gs)
    (hgs : List.Forall₂ (fun x g => FieldDecl.read x = .ok g) xs gs) : ModelDecl.AllPass xs := by
  rintro pre x post rfl
  obtain ⟨gs₁, g, gs₂, rfl, hpre, hx⟩ := forall₂_append_cons hgs
  have hg := FieldDecl.read_eq_ok hx
  refine ⟨⟨_, _, hg.type⟩, hg.modifiers, fun hmarked y hy hfirst => ?_, fun hnow => ?_⟩
  -- a marked field behind another one would make two keys of the draft
  · obtain ⟨g', hg', hy'⟩ := forall₂_mem_left hpre hy
    have hkey := (FieldDecl.read_eq_ok hy').marked.mpr hfirst
    have hpos : 0 < (gs₁.filter (·.isPrimaryKey)).length :=
      List.length_pos_of_mem (List.mem_filter.mpr ⟨hg', hkey⟩)
    have hone := h.marked
    simp only [List.filter_append, List.filter_cons, hg.marked.mpr hmarked, if_true,
      List.length_append, List.length_cons] at hone
    omega
  -- the draft has a clause for the field, so its default was not refused
  · obtain ⟨-, clause, -, -, -, hclause⟩ := forall₂_append_cons h.clauses
    rcases hg.ownClause_outcome settings with ⟨-, -, htype⟩ | ⟨herror, -⟩
    · rcases htype hnow with htype | htype
      · exact ⟨g.nullable, .inl (htype ▸ hg.type)⟩
      · exact ⟨g.nullable, .inr (htype ▸ hg.type)⟩
    · rw [hclause] at herror
      cases herror

/-- A field that stops a run is refused after the fields in front of it. -/
theorem Draft.Describes.refused {x : FieldDecl} {g : Field} {e : Fault}
    (h : d.Describes settings gs)
    (hgs : List.Forall₂ (fun x g => FieldDecl.read x = .ok g) xs gs)
    (hx : FieldDecl.read x = .ok g) (hadd : d.add settings g = .error e) :
    ∃ code c, e = .declaration ⟨c, none, some (.str x.name)⟩ ∧ c.code = code ∧
      x.Refused xs code c := by
  have hg := FieldDecl.read_eq_ok hx
  rcases add_eq_error hadd with ⟨key, hmarked, hkey, rfl⟩ | ⟨hfirst, hclause⟩
  -- the key of the draft is the first marked field in front of this one
  · rw [h.key] at hkey
    obtain ⟨g', hg', rfl⟩ := Option.map_eq_some_iff.mp hkey
    obtain ⟨y, hy, hy'⟩ := forall₂_mem_right hgs (List.mem_of_find?_eq_some hg')
    have hfirst := (FieldDecl.read_eq_ok hy').marked.mp (List.find?_some hg')
    refine ⟨.multiplePrimaryKeys, .secondKey y.name, ?_, rfl,
      .key hg.type hg.modifiers (hg.marked.mp hmarked) hy hfirst⟩
    rw [hg.name, ← (FieldDecl.read_eq_ok hy').name]
    rfl
  · rcases hg.ownClause_outcome settings with ⟨clause, hok, -⟩ | ⟨herror, hnow, hdate, hmoment⟩
    · rw [hclause] at hok
      cases hok
    · obtain rfl := Except.error.inj (hclause.symm.trans herror)
      -- the default is looked at last, so the field is not a second key
      refine ⟨_, _, by rw [hg.name], rfl, .present hg.type hg.modifiers ?_ hnow hdate hmoment⟩
      intro hmarked y hy hyfirst
      obtain ⟨g', hg', hy'⟩ := forall₂_mem_left hgs hy
      have hkey := (FieldDecl.read_eq_ok hy').marked.mpr hyfirst
      rw [h.key_eq_none_iff.mp (hfirst (hg.marked.mpr hmarked)) g' hg'] at hkey
      cases hkey

/-- A run is keyless if no field is declared to be the key: a key has a name. -/
theorem Draft.Describes.keyless_iff (h : d.Describes settings gs)
    (hgs : List.Forall₂ (fun x g => FieldDecl.read x = .ok g) xs gs)
    (hname : ∀ x ∈ xs, x.name ≠ "") :
    PrimaryKey.nameOf d.key = "" ↔ ∀ x ∈ xs, ¬ FieldDecl.IsMarked x := by
  rw [h.key]
  cases hfind : gs.find? (·.isPrimaryKey) with
  | none =>
    simp only [Option.map_none, PrimaryKey.nameOf, Option.getD_none, true_iff]
    intro x hx hmarked
    obtain ⟨g, hg, hx'⟩ := forall₂_mem_left hgs hx
    exact List.find?_eq_none.mp hfind g hg ((FieldDecl.read_eq_ok hx').marked.mpr hmarked)
  | some g =>
    obtain ⟨x, hx, hx'⟩ := forall₂_mem_right hgs (List.mem_of_find?_eq_some hfind)
    have hg := FieldDecl.read_eq_ok hx'
    have hne : g.name ≠ "" := hg.name ▸ hname x hx
    have hmarked := hg.marked.mp (List.find?_some hfind)
    -- here the names matter: a key without a name would count as no key
    simp only [Option.map_some, PrimaryKey.nameOf, PrimaryKey.ofField, Option.getD_some, hne,
      false_iff]
    exact fun hno => hno x hx hmarked

/-- What stops a run over declared fields is the refusal of the first field that does not
pass; the draft that is left describes the fields in front of it. -/
theorem Draft.stopped_describes {e : Fault}
    (hrun : Draft.empty.advance settings FieldDecl.read xs = (d, some e)) :
    ∃ pre x post gs code c, xs = pre ++ x :: post ∧
      List.Forall₂ (fun x g => FieldDecl.read x = .ok g) pre gs ∧ d.Describes settings gs ∧
      x.Refused pre code c ∧ c.code = code ∧ e = .declaration ⟨c, none, some (.str x.name)⟩ := by
  obtain ⟨pre, x, post, gs, hsplit, hgs, hdraft, hstop⟩ :=
    Draft.describes_empty.advance_stopped hrun
  rcases hstop with hx | ⟨g, hx, hadd⟩
  · obtain ⟨e', he', rfl⟩ := Except.mapError_eq_error.mp hx
    obtain ⟨code, c, rfl, hcode, hrefused⟩ := Field.extract_eq_error pre he'
    exact ⟨pre, x, post, gs, code, c, hsplit, hgs, hdraft, hrefused, hcode, rfl⟩
  · obtain ⟨code, c, rfl, hcode, hrefused⟩ := hdraft.refused hgs hx hadd
    exact ⟨pre, x, post, gs, code, c, hsplit, hgs, hdraft, hrefused, hcode, rfl⟩

theorem Draft.stopped_by_refusal {e : Fault}
    (hrun : Draft.empty.advance settings FieldDecl.read xs = (d, some e)) :
    ∃ pre x post code c, xs = pre ++ x :: post ∧ ModelDecl.AllPass pre ∧
      x.Refused pre code c ∧ c.code = code ∧ e = .declaration ⟨c, none, some (.str x.name)⟩ := by
  obtain ⟨pre, x, post, gs, code, c, hsplit, hgs, hdraft, hrefused, hcode, he⟩ :=
    Draft.stopped_describes hrun
  exact ⟨pre, x, post, code, c, hsplit, hdraft.allPass hgs, hrefused, hcode, he⟩

/-- A model is finished under a name that spells text. -/
theorem Draft.finish_of_checkName (d : Draft) {model : Value} {n : String}
    (hn : model.checkName [.name "name"] = .ok n) :
    d.finish model = .ok ⟨n, createTable model.text d.clauses, d.key, d.arguments,
      Statement.delete model.text (PrimaryKey.nameOf d.key), ⟨n, d.fields⟩⟩ := by
  rw [finish, Definition.ofValues, hn]
  rfl

end Run

/-- The compilation of a declared model succeeds and the model is valid, or fails and
the model is refused. -/
theorem Compilation.ofDecl_outcome (settings : CompilerSettings) {d : ModelDecl}
    (hd : d.WellFormed) :
    (∃ c, (ofDecl settings d).result = .ok c) ∧ d.Valid settings ∨
    ∃ code c field, (ofDecl settings d).result = .error (.declaration ⟨c, some d.name, field⟩) ∧
      c.code = code ∧ d.Refused settings code c field := by
  obtain ⟨n, hn, hne⟩ := hd.name
  rw [ofDecl, ofFields, hn]
  by_cases hnil : d.fields = []
  · rw [if_pos (List.isEmpty_iff.mpr hnil)]
    exact .inr ⟨_, _, _, rfl, rfl, .noFields hnil⟩
  rw [if_neg (mt List.isEmpty_iff.mp hnil)]
  cases hrun : Draft.empty.advance settings FieldDecl.read d.fields with
  | mk draft stop =>
    cases stop with
    -- the run stops in front of the question whether there is a key
    | some e =>
      obtain ⟨pre, x, post, code, c, hsplit, hpre, hrefused, hcode, rfl⟩ :=
        Draft.stopped_by_refusal hrun
      exact .inr ⟨code, c, _, rfl, hcode, .field hsplit hpre hrefused⟩
    | none =>
      obtain ⟨gs, hgs, hdraft⟩ := Draft.describes_empty.advance hrun
      have hpass := hdraft.allPass hgs
      have hkeyless := hdraft.keyless_iff hgs hd.fieldName
      by_cases hmissing : PrimaryKey.nameOf draft.key = "" ∧ settings.requiresKey = true
      · refine .inr ⟨.missingPrimaryKey, .missingKey, none, ?_, rfl,
          .missingKey hnil hpass hmissing.2 (hkeyless.mp hmissing.1)⟩
        simp [conclude, hmissing, refuse]
      · refine .inl ⟨?_, hnil, hpass, fun hrequired => ?_⟩
        · have hcheck : (Value.str n).checkName [.name "name"] = .ok n := by
            rw [Value.checkName_str, if_neg hne]
          refine ⟨_, Eq.trans ?_ (draft.finish_of_checkName hcheck)⟩
          simp only [conclude, Bool.and_eq_true, decide_eq_true_eq, hmissing, if_false]
        · by_contra hno
          refine hmissing ⟨hkeyless.mpr fun x hx hmarked => hno ⟨x, hx, hmarked⟩, hrequired⟩

theorem Value.given?_of_ne_null {v : Value} (h : v ≠ .null) : v.given? = some v := by
  cases v with
  | null => exact absurd rfl h
  | _ => rfl

/-- A name that spells text is a name. -/
theorem Value.given?_of_checkName {place : List Place} {v : Value} {n : String}
    (h : v.checkName place = .ok n) : v.given? = some v := by
  refine given?_of_ne_null ?_
  rintro rfl
  cases h

/-- A declared model that is not compiled is refused under its name, and perhaps for a field, by
its name; or its name is none. -/
theorem Compilation.ofDecl_fault {settings : CompilerSettings} {d : ModelDecl} {e : Fault}
    (hn : d.name ≠ .null) (he : (ofDecl settings d).result = .error e) :
    (∃ c, ∃ field : Option String, e = .declaration ⟨c, some d.name, field.map .str⟩) ∨
      (∃ es, d.name.checkName [.name "name"] = .error es) ∧ ∃ i, e = .invalid i := by
  rw [ofDecl, ofFields] at he
  split at he
  -- no fields
  · exact .inl ⟨_, none, (Except.error.inj he).symm⟩
  · cases hrun : Draft.empty.advance settings FieldDecl.read d.fields with
    | mk draft stop =>
      rw [hrun] at he
      cases stop with
      | some stop =>
        obtain ⟨pre, x, post, code, c, -, -, -, -, rfl⟩ := Draft.stopped_by_refusal hrun
        refine .inl ⟨c, some x.name, ?_⟩
        rw [← Except.error.inj he, Fault.withModel, DeclError.withModel,
          Value.given?_of_ne_null hn]
        rfl
      | none =>
        simp only [conclude] at he
        split at he
        · exact .inl ⟨_, none, (Except.error.inj he).symm⟩
        · cases hname : d.name.checkName [.name "name"] with
          | ok n =>
            rw [draft.finish_of_checkName hname] at he
            cases he
          -- the name is looked at last, when the definition is built
          | error es =>
            rw [Draft.finish, Definition.ofValues, hname] at he
            exact .inr ⟨⟨es, rfl⟩, _, (Except.error.inj he).symm⟩

/-- A declared model whose name spells text is refused under that name, if it is refused, and
perhaps for a field, by its name. -/
theorem Compilation.ofDecl_refusal {settings : CompilerSettings} {d : ModelDecl} {n : String}
    {e : Fault} (hn : d.name.checkName [.name "name"] = .ok n)
    (he : (ofDecl settings d).result = .error e) :
    ∃ c, ∃ field : Option String, e = .declaration ⟨c, some d.name, field.map .str⟩ := by
  have hnull : d.name ≠ .null := by
    intro hnull
    rw [hnull] at hn
    cases hn
  rcases ofDecl_fault hnull he with hrefused | ⟨⟨es, hes⟩, -⟩
  · exact hrefused
  · rw [hn] at hes
    cases hes

theorem Compilation.ofDecl_error {settings : CompilerSettings} {d : ModelDecl} {n : String}
    {e : Fault} (hn : d.name.checkName [.name "name"] = .ok n)
    (he : (ofDecl settings d).result = .error e) :
    ∃ c field, e = .declaration ⟨c, some d.name, field⟩ := by
  obtain ⟨c, field, rfl⟩ := ofDecl_refusal hn he
  exact ⟨c, _, rfl⟩

/-- **Which models are compiled.** A declared model is compiled exactly if it is valid;
otherwise it is refused for the first thing that is wrong with it, by its name and
the name of the field. -/
theorem compile_model_outcome (settings : CompilerSettings) (d : ModelDecl)
    (hd : d.WellFormed) (name : Value) (s : Session) :
    ((∃ c, ((Compiler.compile settings (.model d) name).run s).1 = .ok c) ↔ d.Valid settings) ∧
    (∀ e, ((Compiler.compile settings (.model d) name).run s).1 = .error e →
      ∃ code c field, e = .declaration ⟨c, some d.name, field⟩ ∧ c.code = code ∧
        d.Refused settings code c field) ∧
    ∀ code c field, d.Refused settings code c field →
      ∃ c', c'.code = code ∧ ((Compiler.compile settings (.model d) name).run s).1 =
        .error (.declaration ⟨c', some d.name, field⟩) := by
  have hrun : ((Compiler.compile settings (.model d) name).run s).1 =
      (Compilation.ofDecl settings d).result :=
    (Compiler.compile_answers settings (.model d) name).outcome s
  rw [hrun]
  rcases Compilation.ofDecl_outcome settings hd with ⟨⟨c, hc⟩, hvalid⟩ |
    ⟨code, c, field, hc, hcode, hrefused⟩
  · refine ⟨iff_of_true ⟨c, hc⟩ hvalid, fun e he => ?_, fun _ _ _ h => ?_⟩
    · rw [hc] at he
      cases he
    · exact absurd hvalid h.not_valid
  · refine ⟨iff_of_false ?_ hrefused.not_valid, fun e he => ?_, fun _ _ _ h => ?_⟩
    · rintro ⟨c', hc'⟩
      rw [hc] at hc'
      cases hc'
    · obtain rfl := Except.error.inj (hc.symm.trans he)
      exact ⟨code, c, field, rfl, hcode, hrefused⟩
    · obtain ⟨rfl, rfl⟩ := hrefused.unique h
      exact ⟨c, hcode, hc⟩

/-- A declared field that is a key. -/
def keyDecl : FieldDecl := ⟨"id", .str "Serial", [("primary_key", .bool true)]⟩

/-- A declared field that is marked as well, and defaults to the present without being
temporal. -/
def markedDecl : FieldDecl :=
  ⟨"code", .str "Text", [("default", .str "now"), ("primary_key", .bool true)]⟩

/-- A declared model of the two. -/
def twoKeysDecl : ModelDecl := ⟨.str "visits", [keyDecl, markedDecl]⟩

theorem twoKeysDecl_wellFormed : twoKeysDecl.WellFormed :=
  ⟨⟨"visits", rfl, by decide⟩, by simp [twoKeysDecl, keyDecl, markedDecl]⟩

theorem allPass_keyDecl : ModelDecl.AllPass [keyDecl] := by
  intro pre f post h
  obtain ⟨rfl, rfl, rfl⟩ : pre = [] ∧ f = keyDecl ∧ post = [] := by
    cases pre <;> simp_all
  refine ⟨⟨.serial, false, TypeName.ofDeclared_eq_ok.mp (by rfl)⟩, ?_, fun _ => by simp, ?_⟩
  · simpa [keyDecl] using Modifier.Valid.flag (by decide)
  · rintro ⟨v, hv, -⟩
    cases hv

theorem refused_markedDecl :
    markedDecl.Refused [keyDecl] .multiplePrimaryKeys (.secondKey "id") := by
  have hreads : TypeName.Reads (.str "Text") .text false := TypeName.ofDeclared_eq_ok.mp (by rfl)
  have hmarked : markedDecl.IsMarked := rfl
  have hkey : keyDecl.IsMarked := rfl
  refine .key hreads ?_ hmarked List.mem_cons_self hkey
  have hdefault : Modifier.Valid "default" (.str "now") := .default (.inr (.inl rfl))
  simpa [markedDecl] using ⟨hdefault, Modifier.Valid.flag (by decide)⟩

/-- The second key is what the sample is refused for: that stage comes before the
default. -/
theorem compile_twoKeysDecl :
    twoKeysDecl.WellFormed ∧
    ∃ c, c.code = .multiplePrimaryKeys ∧
      ((Compiler.compile .default (.model twoKeysDecl) .null).run calmSession).1 =
        .error (.declaration ⟨c, some (.str "visits"), some (.str "code")⟩) :=
  ⟨twoKeysDecl_wellFormed,
    (compile_model_outcome .default twoKeysDecl twoKeysDecl_wellFormed .null calmSession).2.2
      _ _ _ (.field (rfl : _ = [keyDecl] ++ markedDecl :: []) allPass_keyDecl refused_markedDecl)⟩

end Relvar
