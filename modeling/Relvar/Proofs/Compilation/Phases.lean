/-
Compiling in one phase and in two. The compiler extracts a field only when the fields in
front of it are planned; a definition is extracted as a whole, and compiled afterwards.
The two ways make the same of a source, since a run over fields that all can be extracted
is the run over what they are extracted to. They differ in one point: a source that is
refused may be refused for another field, for extracting everything first overtakes a
field that can be extracted but not planned.
-/
import Relvar.Proofs.Compilation.Validity

set_option autoImplicit false

namespace Relvar

/-! ## Extracting several fields -/

namespace Field

theorem extractAll_eq_mapM (xs : List FieldDecl) : extractAll xs = xs.mapM extract :=
  Except.eq_mapM extractAll rfl (fun _ _ => rfl) xs

theorem extractAll_eq_ok {xs : List FieldDecl} {fs : List Field} :
    extractAll xs = .ok fs ↔ List.Forall₂ (fun x f => extract x = .ok f) xs fs := by
  rw [extractAll_eq_mapM, Except.mapM_eq_ok]

/-- Fields that are not extracted together have a first one that is not extracted. -/
theorem extractAll_eq_error {xs : List FieldDecl} {e : DeclError} (h : extractAll xs = .error e) :
    ∃ pre x post fs, xs = pre ++ x :: post ∧
      List.Forall₂ (fun x f => extract x = .ok f) pre fs ∧ extract x = .error e := by
  rw [extractAll_eq_mapM] at h
  obtain ⟨pre, x, post, hsplit, hpre, hx⟩ := Except.mapM_eq_error.mp h
  obtain ⟨fs, hfs⟩ := exists_forall₂_iff.mpr hpre
  exact ⟨pre, x, post, fs, hsplit, hfs, hx⟩

/-- A field is not extracted because of its type or of a modifier, never because of the
key or of the default. -/
theorem code_of_extract {x : FieldDecl} {e : DeclError} (h : extract x = .error e) :
    e.cause.code ≠ .multiplePrimaryKeys ∧ e.cause.code ≠ .invalidDefault := by
  obtain ⟨c, hparts, rfl⟩ := Except.mapError_eq_error.mp h
  rcases Except.bind_eq_error.mp hparts with htype | ⟨⟨t, nullable⟩, -, hparts⟩
  · simp [TypeName.code_of_ofDeclared htype]
  · rcases Except.bind_eq_error.mp hparts with hms | ⟨ms, -, hms⟩
    · obtain ⟨pre, name, v, post, -, -, -, rfl⟩ := Modifier.ofEntries_eq_error hms
      simp only [Modifier.code_refusal]
      split <;> simp
    · cases hms

end Field

/-! ## Runs over extracted fields -/

/-- A run over fields that all can be extracted is the run over what they are extracted to:
what is planned does not depend on when the later fields are extracted. -/
theorem Draft.advance_extracted {α : Type} {settings : CompilerSettings}
    {extract : α → Except Fault Field} {xs : List α} {fs : List Field} (d : Draft)
    (h : List.Forall₂ (fun x f => extract x = .ok f) xs fs) :
    d.advance settings extract xs = d.advance settings .ok fs := by
  induction h generalizing d with
  | nil => rfl
  | @cons x f xs fs hx _ ih =>
    simp only [advance, hx]
    cases d.add settings f with
    | error e => rfl
    | ok next => exact ih next

/-- A run that stops ends with the faults of the fields that are still to come left out. -/
theorem Draft.advance_append {α : Type} {settings : CompilerSettings}
    {extract : α → Except Fault Field} (d : Draft) (xs ys : List α) :
    d.advance settings extract (xs ++ ys) =
      match d.advance settings extract xs with
      | (next, some e) => (next, some e)
      | (next, none) => next.advance settings extract ys := by
  induction xs generalizing d with
  | nil => rfl
  | cons x xs ih =>
    simp only [List.cons_append, advance]
    cases extract x with
    | error e => rfl
    | ok f =>
      dsimp only
      cases d.add settings f with
      | error e => rfl
      | ok next => exact ih next

/-! ## Compilations over extracted fields -/

namespace Compilation

variable {α : Type} {settings : CompilerSettings} {model : Value}
  {extract : α → Except Fault Field} {xs : List α} {c : Compiled}

theorem ofFields_extracted {fs : List Field} (settings : CompilerSettings) (model : Value)
    (h : List.Forall₂ (fun x f => extract x = .ok f) xs fs) :
    ofFields settings model extract xs = ofFields settings model .ok fs := by
  have hempty : xs.isEmpty = fs.isEmpty := by cases h <;> rfl
  rw [ofFields, ofFields, hempty, Draft.empty.advance_extracted h]

/-- A compilation succeeds if there are fields, which all pass, a key is there where one is
asked for, and the model can be finished under its name. -/
theorem result_eq_ok : (ofFields settings model extract xs).result = .ok c ↔
    xs ≠ [] ∧ ∃ d, Draft.empty.advance settings extract xs = (d, none) ∧
      ¬ (PrimaryKey.nameOf d.key = "" ∧ settings.requiresKey = true) ∧ d.finish model = .ok c := by
  rw [ofFields]
  by_cases hxs : xs = []
  · simp [hxs]
  · rw [if_neg (mt List.isEmpty_iff.mp hxs)]
    cases hrun : Draft.empty.advance settings extract xs with
    | mk d stop =>
      cases stop with
      | some e => simp
      | none =>
        -- a key that is missing is refused only where the settings ask for one
        by_cases hkey : PrimaryKey.nameOf d.key = "" ∧ settings.requiresKey = true
        · simp [conclude, hkey]
        · simp only [conclude, Bool.and_eq_true, decide_eq_true_eq, hkey, if_false]
          constructor
          · intro hc
            exact ⟨hxs, d, rfl, hkey, hc⟩
          · rintro ⟨-, d', hd, -, hc⟩
            obtain ⟨rfl, -⟩ := Prod.mk.inj hd
            exact hc

end Compilation

/-! ## Definitions of declared models -/

theorem Definition.extract_eq_ok {d : ModelDecl} {m : Definition} :
    Definition.extract d = .ok m ↔ ∃ fs n, Field.extractAll d.fields = .ok fs ∧
      d.name.checkName [.name "name"] = .ok n ∧ m = ⟨n, fs⟩ := by
  unfold Definition.extract Definition.ofValues
  cases Field.extractAll d.fields with
  | error e => simp
  | ok fs =>
    cases d.name.checkName [.name "name"] with
    | error es => simp [Except.mapError]
    | ok n => simp [Except.mapError, eq_comm]

namespace Compilation

variable {settings : CompilerSettings} {d : ModelDecl} {m : Definition} {c : Compiled}

/-- A definition that is extracted under a plain name is compiled as the declared model is that
it was extracted from. -/
theorem ofDefinition_extracted (settings : CompilerSettings) {n : String}
    (hn : d.name = .str n) (h : Definition.extract d = .ok m) :
    ofDefinition settings m = ofDecl settings d := by
  obtain ⟨fs, n', hfs, hname, rfl⟩ := Definition.extract_eq_ok.mp h
  have hread : List.Forall₂ (fun x f => FieldDecl.read x = .ok f) d.fields fs :=
    (Field.extractAll_eq_ok.mp hfs).imp fun x f hx => Except.mapError_eq_ok.mpr hx
  -- a plain name spells itself, so the definition has the name of the declared model
  rw [hn] at hname
  obtain rfl := Value.eq_of_checkName_str hname
  rw [ofDefinition, ofDecl, ofFields_extracted settings _ hread, hn]

/-- The definition of what is compiled is the one that is extracted. -/
theorem extract_of_ofDecl (hc : (ofDecl settings d).result = .ok c) :
    Definition.extract d = .ok c.definition := by
  obtain ⟨fs, -, hread, hname, hmodel⟩ := ofFields_eq_ok hc
  have hdefinition : c.definition = ⟨c.model, fs⟩ := by
    obtain ⟨-, draft, -, -, hfinish⟩ := result_eq_ok.mp hc
    obtain ⟨n, -, rfl⟩ := Draft.finish_eq_ok hfinish
    rw [← hmodel.fields]
  -- compiling reads a field as extraction does, and only tells a fault otherwise
  refine Definition.extract_eq_ok.mpr ⟨fs, c.model, ?_, hname, hdefinition⟩
  exact Field.extractAll_eq_ok.mpr (hread.imp fun x f hx => Except.mapError_eq_ok.mp hx)

/-- Under a plain name a declared model is compiled to what its definition is compiled to. -/
theorem inPhases_eq_ok {n : String} (hn : d.name = .str n) :
    ((Definition.extract d).bind fun m => (ofDefinition settings m).result) = .ok c ↔
      (ofDecl settings d).result = .ok c := by
  constructor
  · intro hc
    obtain ⟨m, hextract, hc⟩ := Except.bind_eq_ok.mp hc
    rwa [ofDefinition_extracted settings hn hextract] at hc
  · intro hc
    have hextract := extract_of_ofDecl hc
    rw [hextract, Except.bind, ofDefinition_extracted settings hn hextract]
    exact hc

end Compilation

/-! ## Refusals -/

/-- A field that can be extracted is refused only as a second key or for its default. -/
theorem FieldDecl.Refused.code_of_extract {earlier : List FieldDecl} {x : FieldDecl}
    {code : ErrorCode} {c : Cause} {f : Field} (h : x.Refused earlier code c)
    (hx : Field.extract x = .ok f) : code = .multiplePrimaryKeys ∨ code = .invalidDefault := by
  have hf := Field.extract_eq_ok hx
  cases h with
  | type unread => exact absurd hf.type (unread _ _)
  | modifier type split before invalid =>
    have hmem := split ▸ List.mem_append_right _ List.mem_cons_self
    exact absurd (hf.modifiers _ hmem) invalid
  | key => exact .inl rfl
  | present => exact .inr rfl

/-- A field of a declared model is overtaken by a later one: it can be extracted, as all
fields in front of the later one can, but it is refused as a second key or for its
default, after fields that pass; the later one cannot be extracted. -/
inductive ModelDecl.Overtaken (d : ModelDecl) (x : FieldDecl) (c : Cause) (e : DeclError) : Prop
  | intro {pre mid post : List FieldDecl} {y : FieldDecl}
      (split : d.fields = (pre ++ x :: mid) ++ y :: post)
      (before : AllPass pre) (refused : x.Refused pre c.code c)
      (stage : c.code = .multiplePrimaryKeys ∨ c.code = .invalidDefault)
      (read : ∀ z ∈ pre ++ x :: mid, ∃ f, Field.extract z = .ok f)
      (unread : Field.extract y = .error e)

/-- How the refusal of a declared model that is compiled at once is related to the refusal
of the model compiled by way of its definition: they are the same, unless a field is
overtaken. -/
inductive ModelDecl.RefusedInPhases (d : ModelDecl) (atOnce inPhases : DeclError) : Prop
  | same (same : inPhases = atOnce) (first : ∀ x c e, ¬ d.Overtaken x c e)
  | overtaken {x : FieldDecl} {c : Cause} {e : DeclError} (overtaken : d.Overtaken x c e)
      (atOnce_eq : atOnce = ⟨c, some d.name, some (.str x.name)⟩)
      (inPhases_eq : inPhases = e.withModel d.name) (differ : inPhases ≠ atOnce)

namespace ModelDecl

variable {d : ModelDecl} {pre post : List FieldDecl} {x y : FieldDecl} {c : Cause} {e : DeclError}

/-- The field that overtakes is refused for another reason than the one that it overtakes. -/
theorem Overtaken.cause_ne (h : d.Overtaken x c e) : e.cause ≠ c := by
  rintro rfl
  cases h with
  | intro _ _ _ stage _ unread =>
    obtain ⟨hkey, hdefault⟩ := Field.code_of_extract unread
    rcases stage with stage | stage
    · exact hkey stage
    · exact hdefault stage

/-- If all fields in front of the first that cannot be extracted pass, none is overtaken. -/
theorem not_overtaken (hsplit : d.fields = pre ++ y :: post)
    (hread : ∀ z ∈ pre, ∃ f, Field.extract z = .ok f) (hy : ∀ f, Field.extract y ≠ .ok f)
    (hpass : AllPass pre) : ¬ d.Overtaken x c e := by
  rintro ⟨hsplit', -, hrefused, -, hread', hy'⟩
  -- the field that would overtake is the first that cannot be extracted
  obtain ⟨rfl, -⟩ := first_unique (P := fun _ z => ∃ f, Field.extract z = .ok f)
    (hsplit.symm.trans hsplit') (fun _ z _ hz => hread z (by simp [hz]))
    (fun ⟨f, hf⟩ => hy f hf) (fun _ z _ hz => hread' z (by rw [hz]; simp)) (by simp [hy'])
  exact hrefused.not_passes (hpass _ _ _ rfl)

end ModelDecl

namespace Compilation

/-- A declared model of which a field cannot be extracted is compiled up to that field, or to
an earlier one that is refused. -/
theorem ofDecl_unread (settings : CompilerSettings) {d : ModelDecl} {pre post : List FieldDecl}
    {y : FieldDecl} {e : DeclError} (hsplit : d.fields = pre ++ y :: post)
    (hy : Field.extract y = .error e) :
    (ofDecl settings d).result =
      match Draft.empty.advance settings FieldDecl.read pre with
      | (_, some stop) => .error (stop.withModel d.name)
      | (_, none) => .error (.declaration (e.withModel d.name)) := by
  have hunread : FieldDecl.read y = .error (.declaration e) := by
    rw [FieldDecl.read, hy]
    rfl
  rw [ofDecl, ofFields, hsplit, if_neg (by simp), Draft.advance_append]
  rcases Draft.empty.advance settings FieldDecl.read pre with ⟨draft, _ | stop⟩
  · simp only [Draft.advance, hunread]
    rfl
  · rfl

/-- A declared model of which a field cannot be extracted is refused for that field, unless
the run over the fields stops in front of it: then the field that stops it is overtaken. -/
theorem refused_inPhases (settings : CompilerSettings) {d : ModelDecl} {n : String}
    {e : DeclError} (hn : d.name = .str n) (he : Field.extractAll d.fields = .error e) :
    ∃ r, (ofDecl settings d).result = .error (.declaration r) ∧ r.model = some d.name ∧
      (e.withModel d.name).model = some d.name ∧ d.RefusedInPhases r (e.withModel d.name) := by
  obtain ⟨pre, y, post, fs, hsplit, hpre, hy⟩ := Field.extractAll_eq_error he
  have hread : ∀ z ∈ pre, ∃ f, Field.extract z = .ok f := by
    intro z hz
    obtain ⟨f, -, hf⟩ := forall₂_mem_left hpre hz
    exact ⟨f, hf⟩
  have hmodel : (e.withModel d.name).model = some d.name := by
    obtain ⟨-, c, rfl, -, -⟩ := Field.extract_eq_error [] hy
    rw [hn]
    rfl
  rw [ofDecl_unread settings hsplit hy]
  rcases hrun : Draft.empty.advance settings FieldDecl.read pre with ⟨draft, _ | stop⟩
  · -- the run reaches the field that cannot be extracted, so all in front of it pass
    obtain ⟨gs, hgs, hdraft⟩ := Draft.describes_empty.advance hrun
    exact ⟨e.withModel d.name, rfl, hmodel, hmodel, .same rfl fun x c e' =>
      ModelDecl.not_overtaken hsplit hread (by simp [hy]) (hdraft.allPass hgs)⟩
  · -- the run stops at a field in front of it, which can be extracted
    obtain ⟨before, x, mid, code, c, rfl, hpass, hrefused, rfl, rfl⟩ :=
      Draft.stopped_by_refusal hrun
    obtain ⟨f, hf⟩ := hread x (by simp)
    have hover : d.Overtaken x c e :=
      .intro hsplit hpass hrefused (hrefused.code_of_extract hf) hread hy
    refine ⟨⟨c, some d.name, some (.str x.name)⟩, by rw [hn]; rfl, rfl, hmodel,
      .overtaken hover rfl rfl fun hsame => hover.cause_ne ?_⟩
    exact congrArg DeclError.cause hsame

/-- A declared model that is refused at once is refused in phases too, under the same
name. -/
theorem phases_refuse {settings : CompilerSettings} {d : ModelDecl} {n : String} {e : Fault}
    (hn : d.name = .str n) (hne : n ≠ "") (he : (ofDecl settings d).result = .error e) :
    ∃ r r', e = .declaration r ∧
      ((Definition.extract d).bind fun m => (ofDefinition settings m).result) =
        .error (.declaration r') ∧
      r.model = some d.name ∧ r'.model = some d.name ∧ d.RefusedInPhases r r' := by
  have hname : d.name.checkName [.name "name"] = .ok n := by
    rw [hn, Value.checkName_str, if_neg hne]
  cases hfs : Field.extractAll d.fields with
  | error e' =>
    obtain ⟨r, hr, hmodel, hmodel', hrefused⟩ := refused_inPhases settings hn hfs
    rw [hr] at he
    have hextract : Definition.extract d = .error (.declaration (e'.withModel d.name)) := by
      rw [Definition.extract, hfs]
    refine ⟨r, e'.withModel d.name, (Except.error.inj he).symm, ?_, hmodel, hmodel', hrefused⟩
    rw [hextract]
    rfl
  | ok fs =>
    -- every field is extracted, and the two runs over the fields are one
    have hextract : Definition.extract d = .ok ⟨n, fs⟩ :=
      Definition.extract_eq_ok.mpr ⟨fs, n, hfs, hname, rfl⟩
    obtain ⟨c, field, rfl⟩ := ofDecl_error hname he
    refine ⟨_, _, rfl, ?_, rfl, rfl, .same rfl ?_⟩
    · rw [hextract, Except.bind, ofDefinition_extracted settings hn hextract]
      exact he
    · rintro x c e' ⟨hsplit, -, -, -, -, hy⟩
      obtain ⟨f, -, hf⟩ := forall₂_mem_left (Field.extractAll_eq_ok.mp hfs)
        (hsplit ▸ List.mem_append_right _ List.mem_cons_self)
      rw [hf] at hy
      cases hy

end Compilation

/-! ## Compiling in phases -/

namespace Compiler

open Run (Answers)

/-- The compiled model of a source, by way of its definition. -/
def compileInPhases (settings : CompilerSettings) (source name : Value) : Run Compiled := do
  let m ← define source name
  compileDefinition settings m

theorem define_answers (source name : Value) :
    (define source name).Answers ((ModelDecl.ofSource source name).bind Definition.extract) :=
  (declare_answers source name).bind fun d => Answers.ofExcept (Definition.extract d)

theorem compileInPhases_answers (settings : CompilerSettings) (source name : Value) :
    (compileInPhases settings source name).Answers
      (((ModelDecl.ofSource source name).bind Definition.extract).bind fun m =>
        (Compilation.ofDefinition settings m).result) :=
  (define_answers source name).bind fun m => compileDefinition_answers settings m

end Compiler

/-- A source that is declared under a text, or under none, stands for a declared model with a
plain name that is not empty. -/
theorem ModelDecl.plain_ofSource {source : Value} {name : Option String} {d : ModelDecl}
    (hsource : ∀ m : ModelDecl, source = .model m → m.WellFormed)
    (h : ofSource source ((name.map .str).getD .null) = .ok d) : ∃ n, d.name = .str n ∧ n ≠ "" := by
  refine name_ofSource (P := fun v => ∃ n, v = .str n ∧ n ≠ "") (fun m hm => (hsource m hm).name)
    (fun n hn => ⟨n, rfl, hn⟩) (fun htruthy => ?_) h
  cases name with
  | none => cases htruthy
  | some n => exact ⟨n, rfl, by simpa [Value.isTruthy] using htruthy⟩

/-- A declared model of a key, of a second key, and of a field with no type that is known. -/
def lateDecl : ModelDecl :=
  ⟨.str "visits", [keyDecl, markedDecl, ⟨"odd", .str "Nothing", []⟩]⟩

theorem lateDecl_wellFormed : lateDecl.WellFormed :=
  ⟨⟨"visits", rfl, by decide⟩, by simp [lateDecl, keyDecl, markedDecl]⟩

theorem overtaken_lateDecl : ∃ e, lateDecl.Overtaken markedDecl (.secondKey "id") e := by
  refine ⟨_, .intro (rfl : _ = ([keyDecl] ++ markedDecl :: []) ++ _ :: []) allPass_keyDecl
    refused_markedDecl (.inl rfl) ?_ rfl⟩
  intro z hz
  rcases List.mem_cons.mp hz with rfl | hz
  · exact ⟨_, rfl⟩
  · obtain rfl := List.mem_singleton.mp hz
    exact ⟨_, rfl⟩

/-- A record class with one field. -/
def userClass : RecordClass :=
  ⟨"User", none, [⟨"id", .type (.named .int), .required, none, none, []⟩]⟩

/-- What the class is compiled to under the name of people. -/
def people : Compiled :=
  { model := "people"
    table := "create table if not exists people (id integer not null);"
    key := none
    arguments := ⟨["id"], ["id"]⟩
    delete := "delete from people where =?1;"
    definition := ⟨"people", [Field.plain "id" .integer false]⟩ }

/-- A class that is renamed to what is no text is declared under it, and refused only when its
definition is built. -/
example : ((Compiler.compile .default (.recordClass userClass)
    (.dict [(.str "name", .str "users")])).run calmSession).1 =
      .error (.invalid ⟨"ModelDefinition", [⟨.notText, [.name "name"]⟩]⟩) := by
  rw [(Compiler.compile_answers _ _ _).outcome calmSession]
  rfl

end Relvar
