/-
What the log says of a compilation. A run that only logs leaves its session as it was, but
for records that it adds; so the contexts that it enters are left again, however it ends.
The records of a compilation tell of the fields that passed, in their order and each by its
name, and then once of the model, or of the refusal and the field that it is about.
-/
import Relvar.Proofs.Compilation.Validity

set_option autoImplicit false

namespace Relvar

/-! ## Runs that log -/

namespace Run

/-- A run that does nothing but log. In every session it ends in one way, and the session is
the same afterwards, with records behind what happened. `P` relates these to the context in
which the run starts. -/
def Logs {α : Type} (m : Run α) (r : Except Fault α)
    (P : Log.Context → List Log.Record → Prop) : Prop :=
  ∀ s, ∃ rs, m.run s = (r, { s with happenings := s.happenings ++ rs.map .logged }) ∧
    P (Log.innermost s.contexts) rs

variable {α β : Type} {m : Run α} {f : α → Run β} {a : α} {r : Except Fault α}
  {q : Except Fault β} {P P' Q : Log.Context → List Log.Record → Prop}

theorem Logs.mono (h : m.Logs r P) (imp : ∀ context rs, P context rs → P' context rs) :
    m.Logs r P' := by
  intro s
  obtain ⟨rs, hrun, hP⟩ := h s
  exact ⟨rs, hrun, imp _ _ hP⟩

theorem Logs.pure (a : α) : (pure a : Run α).Logs (.ok a) fun _ rs => rs = [] :=
  fun s => ⟨[], by simp, rfl⟩

theorem Logs.throw (e : Fault) : (throw e : Run α).Logs (.error e) fun _ rs => rs = [] :=
  fun s => ⟨[], by simp, rfl⟩

/-- The records of two runs, one after the other, stand one after the other. -/
theorem Logs.bind (h : m.Logs (.ok a) P) (hf : (f a).Logs q Q) :
    (m >>= f).Logs q fun context rs =>
      ∃ rs₁ rs₂, rs = rs₁ ++ rs₂ ∧ P context rs₁ ∧ Q context rs₂ := by
  intro s
  obtain ⟨rs₁, hrun, hP⟩ := h s
  obtain ⟨rs₂, hrun', hQ⟩ := hf { s with happenings := s.happenings ++ rs₁.map .logged }
  refine ⟨rs₁ ++ rs₂, ?_, rs₁, rs₂, rfl, hP, hQ⟩
  rw [run_bind, hrun]
  simp only [hrun', List.map_append, List.append_assoc]

/-- A context that is entered holds for what is logged in it, and is left again. -/
theorem Logs.within (change : Log.Context → Log.Context) (h : m.Logs r P) :
    (within change m).Logs r fun context rs => P (change context) rs := by
  intro s
  obtain ⟨rs, hrun, hP⟩ :=
    h { s with contexts := change (Log.innermost s.contexts) :: s.contexts }
  refine ⟨rs, ?_, hP⟩
  rw [run_within, hrun]
  rfl

end Run

/-- A record that a writer writes in a context, without data of its own. -/
structure Writer.Writes (w : Writer) (level : Log.Level) (current : Log.Context)
    (x : Log.Record) : Prop where
  logger : x.logger = w.name
  level : x.level = level
  context : x.context = current
  extra : x.extra = w.extra [] current

theorem Writer.log_logs (w : Writer) {level : Log.Level} (hlevel : 0 < level) (text : String) :
    (w.log level text).Logs (.ok ()) fun context rs =>
      ∃ x, rs = [x] ∧ w.Writes level context x := by
  intro s
  refine ⟨_, ?_, ⟨w.name, level, .str text, [], w.extra [] (Log.innermost s.contexts),
    Log.innermost s.contexts, .unknown, s.now, none⟩, rfl, rfl, rfl, rfl, rfl⟩
  simp only [Writer.log, Writer.logWith, hlevel, if_true]
  rfl

theorem Writer.debug_logs (w : Writer) (text : String) : (w.debug text).Logs (.ok ())
    fun context rs => ∃ x, rs = [x] ∧ w.Writes Log.Level.debug context x :=
  w.log_logs (by decide) text

theorem Writer.info_logs (w : Writer) (text : String) : (w.info text).Logs (.ok ())
    fun context rs => ∃ x, rs = [x] ∧ w.Writes Log.Level.info context x :=
  w.log_logs (by decide) text

theorem Writer.warning_logs (w : Writer) (text : String) : (w.warning text).Logs (.ok ())
    fun context rs => ∃ x, rs = [x] ∧ w.Writes Log.Level.warning context x :=
  w.log_logs (by decide) text

theorem Writer.error_logs (w : Writer) (text : String) : (w.error text).Logs (.ok ())
    fun context rs => ∃ x, rs = [x] ∧ w.Writes Log.Level.error context x :=
  w.log_logs (by decide) text

/-! ## Data of records -/

namespace Log

theorem ContextPart.sameKey_name (p q : ContextPart) :
    (Value.str p.name).sameKey (.str q.name) = decide (p = q) := by
  cases p <;> cases q <;> rfl

/-- What several parts of a context say. -/
def Context.said (context : Context) (ps : List ContextPart) : List (Value × Value) :=
  ps.filterMap fun p => (context.get p).given?.map fun v => (.str p.name, v)

theorem Context.entries_eq (context : Context) :
    context.entries = context.said ContextPart.all := by
  unfold entries said
  congr 1
  funext p
  cases context.get p <;> rfl

/-- The entries of a context have different keys. -/
theorem Context.merge_entries (context : Context) :
    Dict.merge [] context.entries = context.entries := by
  refine Dict.merge_fresh ?_
  rw [List.nil_append, entries_eq, said]
  have hall : ContextPart.all.Pairwise fun p q => p ≠ q := by decide
  refine hall.filterMap _ fun p q hne e he f hf => ?_
  obtain ⟨v, -, rfl⟩ := Option.map_eq_some_iff.mp he
  obtain ⟨w, -, rfl⟩ := Option.map_eq_some_iff.mp hf
  simpa [ContextPart.sameKey_name] using hne

/-- A part is found among what several parts say, if it is one of them and says something. -/
theorem Context.find?_said (context : Context) (ps : List ContextPart) (p : ContextPart) :
    Dict.find? (context.said ps) (.str p.name) =
      if p ∈ ps then (context.get p).given? else none := by
  induction ps with
  | nil => rfl
  | cons q ps ih =>
    rw [Dict.find?] at ih ⊢
    rw [said, List.filterMap_cons]
    cases hq : (context.get q).given? with
    | none =>
      rw [Option.map_none]
      refine ih.trans ?_
      -- a part that says nothing is skipped, so it is not found even if it is the one looked for
      by_cases hpq : p = q
      · subst hpq
        simp [hq]
      · simp [hpq]
    | some v =>
      simp only [Option.map_some, List.find?_cons, ContextPart.sameKey_name]
      by_cases hqp : q = p
      · subst hqp
        simp [hq]
      · simp only [hqp, decide_false, List.mem_cons, Ne.symm hqp, false_or]
        exact ih

/-- The data of a record without data of its own says what its context says. -/
theorem find?_extraOf (context : Context) (component : Option Value) {p : ContextPart}
    (hp : p ≠ .component) :
    Dict.find? ((extraOf [] context component).asMapping?.getD []) (.str p.name) =
      (context.get p).given? := by
  have hmem : p ∈ ContextPart.all := by cases p <;> decide
  have hfind : Dict.find? context.entries (.str p.name) = (context.get p).given? := by
    rw [Context.entries_eq, Context.find?_said, if_pos hmem]
  simp only [extraOf, Context.merge_entries]
  cases component with
  | none => exact hfind
  | some c =>
    dsimp only
    split
    · exact hfind
    · -- the component comes last and is not what is looked for
      have hlast : (Value.str ContextPart.component.name).sameKey (.str p.name) = false := by
        rw [ContextPart.sameKey_name, decide_eq_false (Ne.symm hp)]
      rw [← hfind]
      simp [Value.asMapping?, Dict.find?, List.find?_append, hlast]

end Log

namespace Compiler

open Run (Logs)

/-! ## Telling -/

/-- How the log ends that tells of a compilation: with a report, or with the refusal in the
context of its field. Other faults are not told. -/
inductive Closes (context : Log.Context) : Except Fault Compiled → List Log.Record → Prop
  | compiled {c : Compiled} {x : Log.Record} (info : writer.Writes Log.Level.info context x) :
      Closes context (.ok c) [x]
  | refused {e : DeclError} {x : Log.Record}
      (error : writer.Writes Log.Level.error
        (context.set .fieldName (e.field.getD .null)) x) :
      Closes context (.error (.declaration e)) [x]
  | untold {e : Fault} (other : ∀ d, e ≠ .declaration d) : Closes context (.error e) []

/-- The log that tells of a compilation in a context: a record for each field that is
planned, in the context of that field; a warning if there is no key; and the end. -/
inductive Tells (c : Compilation) (context : Log.Context) : List Log.Record → Prop
  | mk {fields warnings last : List Log.Record}
      (planned : List.Forall₂ (fun p x => writer.Writes Log.Level.debug
        (context.set .fieldName (.str p.1.name)) x) c.planned fields)
      (warned : if c.isKeyless then
          ∃ x, warnings = [x] ∧ writer.Writes Log.Level.warning context x else warnings = [])
      (closes : Closes context c.result last) : Tells c context (fields ++ (warnings ++ last))

theorem tellPlanned_logs (planned : List (Field × Role)) :
    (tellPlanned planned).Logs (.ok ()) fun context rs =>
      List.Forall₂ (fun p x => writer.Writes Log.Level.debug
        (context.set .fieldName (.str p.1.name)) x) planned rs := by
  induction planned with
  | nil => exact (Logs.pure ()).mono fun _ _ hrs => hrs ▸ .nil
  | cons p rest ih =>
    refine (Logs.bind (Logs.within _ (writer.debug_logs _)) ih).mono ?_
    rintro context rs ⟨_, rs₂, rfl, ⟨x, rfl, hx⟩, hrest⟩
    exact .cons hx hrest

/-- The refusal of a declaration is told of in the context of its field. -/
theorem tellRefused_declaration (model : Value) (e : DeclError) :
    (tellRefused model (.declaration e)).Logs (.ok ()) fun context rs => ∃ x, rs = [x] ∧
      writer.Writes Log.Level.error (context.set .fieldName (e.field.getD .null)) x := by
  rw [tellRefused]
  exact Logs.within _ (writer.error_logs _)

theorem tellRefused_logs (model : Value) (e : Fault) : (do
    tellRefused model e
    throw e : Run Compiled).Logs (.error e) fun context rs => Closes context (.error e) rs := by
  by_cases he : ∃ d, e = .declaration d
  · obtain ⟨d, rfl⟩ := he
    refine (Logs.bind (tellRefused_declaration model d) (Logs.throw _)).mono ?_
    rintro context rs ⟨_, _, rfl, ⟨x, rfl, hx⟩, rfl⟩
    exact .refused hx
  · have hother : ∀ d, e ≠ .declaration d := fun d hd => he ⟨d, hd⟩
    -- a fault that is no refusal is not told of
    have hquiet : tellRefused model e = pure () := by
      cases e with
      | declaration d => exact absurd rfl (hother d)
      | _ => rfl
    rw [hquiet]
    refine (Logs.bind (Logs.pure ()) (Logs.throw e)).mono ?_
    rintro context rs ⟨_, _, rfl, rfl, rfl⟩
    exact .untold hother

theorem tellCompiled_logs (model : Value) (compiled : Compiled) : (do
    tellCompiled model compiled
    return compiled : Run Compiled).Logs (.ok compiled) fun context rs =>
      Closes context (.ok compiled) rs := by
  refine (Logs.bind (writer.info_logs _) (Logs.pure compiled)).mono ?_
  rintro context rs ⟨_, _, rfl, ⟨x, rfl, hx⟩, rfl⟩
  exact .compiled hx

/-- In front of the end there are the fields that are planned, and a warning comes behind them or
nothing does. -/
theorem tellUpTo_logs (model : Value) (planned : List (Field × Role)) (isKeyless : Bool)
    {closing : Run Compiled} {result : Except Fault Compiled}
    (h : closing.Logs result fun context rs => Closes context result rs) : (do
      tellPlanned planned
      if isKeyless then tellKeyless model
      closing : Run Compiled).Logs result fun context rs =>
        Tells ⟨model, planned, isKeyless, result⟩ context rs := by
  cases isKeyless with
  | true =>
    refine (Logs.bind (tellPlanned_logs planned) (Logs.bind (writer.warning_logs _) h)).mono ?_
    rintro context rs ⟨fields, _, rfl, hplanned, warnings, last, rfl, hwarned, hcloses⟩
    exact .mk hplanned hwarned hcloses
  | false =>
    refine (Logs.bind (tellPlanned_logs planned) h).mono ?_
    rintro context rs ⟨fields, last, rfl, hplanned, hcloses⟩
    rw [← List.nil_append last]
    exact .mk hplanned rfl hcloses

/-- Telling of a compilation does nothing but log. -/
theorem tell_logs (c : Compilation) : (tell c).Logs c.result fun context rs =>
    Tells c ((context.set .model c.model).set .operation (.str "compile")) rs := by
  obtain ⟨model, planned, isKeyless, result⟩ := c
  cases result with
  | ok compiled =>
    exact Logs.within _ (tellUpTo_logs model planned isKeyless (tellCompiled_logs model compiled))
  | error e =>
    exact Logs.within _ (tellUpTo_logs model planned isKeyless (tellRefused_logs model e))

end Compiler

/-! ## What a compilation has planned -/

namespace Compilation

/-- A compilation next to the declared model that it is of: all fields have passed and are
planned, and it is keyless exactly if none is declared to be the key; or the fields in front
of the first that does not pass are, and the refusal is about that one, if there is one. -/
inductive Covers (d : ModelDecl) (c : Compilation) : Prop
  | compiled {k : Compiled} (result : c.result = .ok k) (passed : ModelDecl.AllPass d.fields)
      (planned : List.Forall₂ (fun f p => p.1.name = f.name) d.fields c.planned)
      (keyless : c.isKeyless = true ↔ ∀ f ∈ d.fields, ¬ FieldDecl.IsMarked f)
  | refused {e : DeclError} {pre post : List FieldDecl}
      (result : c.result = .error (.declaration e)) (split : d.fields = pre ++ post)
      (passed : ModelDecl.AllPass pre) (stops : ∀ f ∈ post.head?, ¬ f.Passes pre)
      (planned : List.Forall₂ (fun f p => p.1.name = f.name) pre c.planned)
      (keyed : c.isKeyless = false) (field : e.field = post.head?.map fun f => .str f.name)

theorem model_ofDecl (settings : CompilerSettings) (d : ModelDecl) :
    (ofDecl settings d).model = d.name := by
  unfold ofDecl ofFields
  split
  · rfl
  · split
    · rfl
    · unfold conclude
      dsimp only
      split <;> rfl

/-- A draft plans the fields that it describes, under their names. -/
theorem planned_of_describes {settings : CompilerSettings} {xs : List FieldDecl}
    {gs : List Field} {draft : Draft} (h : draft.Describes settings gs)
    (hgs : List.Forall₂ (fun x g => FieldDecl.read x = .ok g) xs gs) :
    List.Forall₂ (fun f p => p.1.name = f.name) xs draft.planned := by
  rw [h.planned]
  exact List.forall₂_map_right_iff.mpr (hgs.imp fun x g hx => (FieldDecl.read_eq_ok hx).name)

/-- Where every field has passed, a model is compiled unless a key is missing that has to be
there. -/
theorem covers_conclude {settings : CompilerSettings} {d : ModelDecl} {gs : List Field}
    {draft : Draft} (hnamed : d.IsNamed) (hfields : ∀ f ∈ d.fields, f.name ≠ "")
    (hgs : List.Forall₂ (fun x g => FieldDecl.read x = .ok g) d.fields gs)
    (hdraft : draft.Describes settings gs) : Covers d (conclude settings d.name draft) := by
  obtain ⟨n, hn⟩ := hnamed
  have hpass := hdraft.allPass hgs
  have hplanned := planned_of_describes hdraft hgs
  -- the key is asked for last, when no field is left to be looked at
  by_cases hmissing : PrimaryKey.nameOf draft.key = "" ∧ settings.requiresKey = true
  · have hmissed : conclude settings d.name draft =
        ⟨d.name, draft.planned, false, .error (refuse d.name .missingKey)⟩ := by
      simp [conclude, hmissing]
    rw [hmissed]
    exact .refused rfl (List.append_nil _).symm hpass (by simp) hplanned rfl rfl
  · have hdone : conclude settings d.name draft = ⟨d.name, draft.planned,
        decide (PrimaryKey.nameOf draft.key = ""), draft.finish d.name⟩ := by
      simp only [conclude, Bool.and_eq_true, decide_eq_true_eq, hmissing, if_false]
    rw [hdone]
    refine .compiled (draft.finish_of_checkName hn) hpass hplanned ?_
    rw [decide_eq_true_eq]
    exact hdraft.keyless_iff hgs hfields

theorem covers_ofDecl (settings : CompilerSettings) {d : ModelDecl} (hnamed : d.IsNamed)
    (hfields : ∀ f ∈ d.fields, f.name ≠ "") : Covers d (ofDecl settings d) := by
  -- without fields nothing is run, and there is no draft to speak of
  by_cases hnil : d.fields = []
  · have hrefused : ofDecl settings d =
        ⟨d.name, [], false, .error (refuse d.name .noFields)⟩ := by
      rw [ofDecl, ofFields, if_pos (List.isEmpty_iff.mpr hnil)]
    rw [hrefused]
    have hnone : ModelDecl.AllPass [] := fun pre f post h => by simp at h
    have hsplit : d.fields = [] ++ [] := hnil
    exact .refused rfl hsplit hnone (by simp) .nil rfl rfl
  cases hrun : Draft.empty.advance settings FieldDecl.read d.fields with
  | mk draft stop =>
    have hne : d.fields.isEmpty = false := by simpa using hnil
    cases stop with
    | some e =>
      obtain ⟨pre, x, post, gs, code, c, hsplit, hgs, hdraft, hrefused, -, rfl⟩ :=
        Draft.stopped_describes hrun
      have hstop : ofDecl settings d = ⟨d.name, draft.planned, false,
          .error (.declaration ⟨c, d.name.given?, some (.str x.name)⟩)⟩ := by
        simp only [ofDecl, ofFields, hne, Bool.false_eq_true, if_false, hrun]
        rfl
      rw [hstop]
      refine .refused rfl hsplit (hdraft.allPass hgs) ?_ (planned_of_describes hdraft hgs) rfl rfl
      simpa using hrefused.not_passes
    | none =>
      obtain ⟨gs, hgs, hdraft⟩ := Draft.describes_empty.advance hrun
      have hend : ofDecl settings d = conclude settings d.name draft := by
        simp only [ofDecl, ofFields, hne, Bool.false_eq_true, if_false, hrun]
      rw [hend]
      exact covers_conclude hnamed hfields hgs hdraft

end Compilation

/-! ## The log of a declared model -/

namespace Compiler

/-- A record in which the compiler tells of a model, at a level: its data names the model, the
operation and, if there is one, a field. -/
structure Names (model : Value) (field : Option Value) (level : Log.Level) (x : Log.Record) :
    Prop where
  logger : x.logger = "core.schema.compiler"
  level : x.level = level
  model : Dict.find? x.data (.str "model") = some model
  operation : Dict.find? x.data (.str "operation") = some (.str "compile")
  field : Dict.find? x.data (.str "field_name") = field

/-- What is written in the context of a compilation names its model, its operation, and the
field of the context. -/
theorem names_of_writes {level : Log.Level} {context : Log.Context} {x : Log.Record}
    {model : Value} (h : writer.Writes level context x) (hmodel : context.model = model)
    (hgiven : model.given? = some model) (hoperation : context.operation = .str "compile") :
    Names model context.fieldName.given? level x := by
  have hfind : ∀ p : Log.ContextPart, p ≠ .component →
      Dict.find? x.data (.str p.name) = (context.get p).given? := by
    intro p hp
    rw [Log.Record.data, h.extra]
    exact Log.find?_extraOf context _ hp
  constructor
  case logger => exact h.logger
  case level => exact h.level
  case model =>
    rw [← hgiven, ← hmodel]
    exact hfind .model (by decide)
  case operation =>
    have hfound := hfind .operation (by decide)
    rwa [Log.Context.get, hoperation] at hfound
  case field => exact hfind .fieldName (by decide)

/-- The log of a compilation of a declared model in a context, next to how it ends. Every
field that passed is told of, in order and by its name. If all do, the model is told of, after
a warning exactly if no field is declared to be the key; these keep the field of the context.
Otherwise the refusal is told of last, with the field that it is about and no other. -/
inductive LogOf (d : ModelDecl) (context : Log.Context) :
    Except Fault Compiled → List Log.Record → Prop
  | keyed {c : Compiled} {fields : List Log.Record} {x : Log.Record}
      (passed : ModelDecl.AllPass d.fields) (marked : ∃ f ∈ d.fields, FieldDecl.IsMarked f)
      (planned : List.Forall₂ (fun f => Names d.name (some (.str f.name)) Log.Level.debug)
        d.fields fields)
      (info : Names d.name context.fieldName.given? Log.Level.info x) :
      LogOf d context (.ok c) (fields ++ [x])
  | keyless {c : Compiled} {fields : List Log.Record} {x y : Log.Record}
      (passed : ModelDecl.AllPass d.fields) (unmarked : ∀ f ∈ d.fields, ¬ FieldDecl.IsMarked f)
      (planned : List.Forall₂ (fun f => Names d.name (some (.str f.name)) Log.Level.debug)
        d.fields fields)
      (warning : Names d.name context.fieldName.given? Log.Level.warning x)
      (info : Names d.name context.fieldName.given? Log.Level.info y) :
      LogOf d context (.ok c) (fields ++ [x, y])
  | refused {e : DeclError} {pre post : List FieldDecl} {fields : List Log.Record}
      {x : Log.Record} (split : d.fields = pre ++ post) (passed : ModelDecl.AllPass pre)
      (stops : ∀ f ∈ post.head?, ¬ f.Passes pre)
      (planned : List.Forall₂ (fun f => Names d.name (some (.str f.name)) Log.Level.debug)
        pre fields)
      (field : e.field = post.head?.map fun f => .str f.name)
      (error : Names d.name e.field Log.Level.error x) :
      LogOf d context (.error (.declaration e)) (fields ++ [x])

/-- The fields that are planned are told of under the names that they are declared with. -/
theorem names_planned {model : Value} {context : Log.Context} {fs : List FieldDecl}
    {planned : List (Field × Role)} {fields : List Log.Record}
    (hgiven : model.given? = some model)
    (hfs : List.Forall₂ (fun f p => p.1.name = f.name) fs planned)
    (hfields : List.Forall₂ (fun p x => writer.Writes Log.Level.debug
      (((context.set .model model).set .operation (.str "compile")).set .fieldName
        (.str p.1.name)) x) planned fields) :
    List.Forall₂ (fun f => Names model (some (.str f.name)) Log.Level.debug) fs fields := by
  induction hfs generalizing fields with
  | nil =>
    cases hfields
    exact .nil
  | cons hname _ ih =>
    cases hfields with
    | cons hx hrest =>
      rw [hname] at hx
      exact .cons (names_of_writes hx rfl hgiven rfl) (ih hrest)

/-- What tells of a compilation is the log of the declared model that it covers. -/
theorem logOf_tells {d : ModelDecl} {c : Compilation} {context : Log.Context}
    {rs : List Log.Record} (hgiven : d.name.given? = some d.name) (hmodel : c.model = d.name)
    (hcovers : Compilation.Covers d c)
    (h : Tells c ((context.set .model c.model).set .operation (.str "compile")) rs) :
    LogOf d context c.result rs := by
  rw [hmodel] at h
  obtain ⟨hplanned, hwarned, hcloses⟩ := h
  -- what tells of the model keeps the field of the context
  have hwhole : ∀ {level : Log.Level} {x : Log.Record}, writer.Writes level
      ((context.set .model d.name).set .operation (.str "compile")) x →
      Names d.name context.fieldName.given? level x := by
    intro level x hx
    have hnamed := names_of_writes hx rfl hgiven rfl
    exact hnamed
  cases hcovers with
  | compiled result passed planned keyless =>
    rw [result] at hcloses ⊢
    cases hcloses with
    | compiled info =>
      by_cases hkey : c.isKeyless = true
      · rw [if_pos hkey] at hwarned
        obtain ⟨x, rfl, hx⟩ := hwarned
        exact .keyless passed (keyless.mp hkey) (names_planned hgiven planned hplanned)
          (hwhole hx) (hwhole info)
      · rw [if_neg hkey] at hwarned
        subst hwarned
        have hmarked : ∃ f ∈ d.fields, FieldDecl.IsMarked f := by
          by_contra hno
          exact hkey (keyless.mpr fun f hf hmark => hno ⟨f, hf, hmark⟩)
        exact .keyed passed hmarked (names_planned hgiven planned hplanned) (hwhole info)
  | @refused e pre post result split passed stops planned keyed field =>
    rw [result] at hcloses ⊢
    rw [keyed, if_neg Bool.false_ne_true] at hwarned
    subst hwarned
    cases hcloses with
    | refused error =>
      have herror := names_of_writes error rfl hgiven rfl
      have hfield : (e.field.getD .null).given? = e.field := by
        rw [field]
        cases post.head? <;> rfl
      simp only [Log.Context.set, hfield] at herror
      exact .refused split passed stops (names_planned hgiven planned hplanned) field herror
    | untold other => exact absurd rfl (other e)

/-- A session in whose context a field is named. -/
def ownerSession : Session :=
  { calmSession with contexts := [Log.Context.empty.set .fieldName (.str "owner")] }

example : (Happening.records ((compile .default (.model twoKeysDecl) .null).run
    ownerSession).2.happenings).map (fun x => (x.level, (Dict.find? x.data (.str "field_name")).map
      Value.text)) = [(Log.Level.debug, some "id"), (Log.Level.error, some "code")] := by
  decide +kernel

end Compiler

end Relvar
