/-
What executors send. Whatever an executor does for an instance, it sends one statement
at most; read in the style of the executor together with the parameters sent along,
the statement gives every column that the operation is about the encoded value that
the instance has for it.
-/
import Relvar.Proofs.Compilation.Result
import Relvar.Proofs.Database.Sending
import Relvar.Proofs.Plans
import Relvar.Proofs.Sql.Sent

set_option autoImplicit false

namespace Relvar

open Database (sent)

/-! ## What a run sends -/

/-- A relation between the session that a run starts in, what it sends and whether it
succeeds. -/
abbrev Sending := Session → List (String × Database.SentParameters) → Bool → Prop

/-- A relation that looks at nothing in a session that logging changes, and says more
of a run that succeeds than of one that fails. -/
structure Sending.Steady (Q : Sending) : Prop where
  world : ∀ s t l ok, t.world = s.world → Q t l ok → Q s l ok
  failing : ∀ s l ok, Q s l true → Q s l ok

/-- Nothing is sent, and the run fails. -/
def Sending.refused : Sending := fun _ l ok => l = [] ∧ ok = false

theorem Sending.steady_refused : refused.Steady :=
  ⟨fun _ _ _ _ _ h => h, fun _ _ _ h => absurd h.2 (by simp)⟩

/-- Nothing is sent, and the run succeeds. -/
def Sending.idle : Sending := fun _ l ok => l = [] ∧ ok = true

namespace Run

variable {α β : Type} {m : Run α} {f : α → Run β} {Q : Sending}

/-- A run sends what a relation says. -/
def Sends (m : Run α) (Q : Sending) : Prop := m.Does fun s r es _ => Q s (sent es) r.isOk

theorem Sends.within (hQ : Q.Steady) (change : Log.Context → Log.Context) (h : m.Sends Q) :
    (within change m).Sends Q := by
  refine (Does.within change h).mono ?_
  rintro s r es t ⟨s', t', hs, -, hsent⟩
  exact hQ.world s s' _ _ hs hsent

theorem Sends.after (hQ : Q.Steady) {a : α} (hm : m.Answers (.ok a)) (h : (f a).Sends Q) :
    (m >>= f).Sends Q := by
  refine (Does.after hm h).mono ?_
  rintro s r es t ⟨s', hs, hsent⟩
  exact hQ.world s s' _ _ hs hsent

theorem Answers.sends_idle {a : α} (h : m.Answers (.ok a)) : m.Sends .idle :=
  h.mono fun _ _ _ _ ⟨hr, hes, _⟩ => ⟨by rw [hes]; rfl, by rw [hr]; rfl⟩

theorem Answers.sends_refused {e : Fault} (h : m.Answers (.error e)) : m.Sends .refused :=
  h.mono fun _ _ _ _ ⟨hr, hes, _⟩ => ⟨by rw [hes]; rfl, by rw [hr]; rfl⟩

theorem Sends.bind (hQ : Q.Steady) (h : m.Sends Q) (hf : ∀ a, (f a).Quiet) :
    (m >>= f).Sends Q := by
  refine (Does.bind h hf).mono ?_
  rintro s r es t (⟨e, rfl, hsent⟩ | ⟨a, u, es₁, es₂, rfl, hsent, hes₂⟩)
  · exact hsent
  · rw [Database.sent_append, hes₂, List.append_nil]
    exact hQ.failing s _ _ hsent

end Run

/-! ## Providers -/

namespace Provider

open Run (Quiet SendsOnce)

/-- A provider that gives a connection in a session. -/
def Ready (p : Provider) (s : Session) : Prop :=
  match p with
  | brought _ => s.script.connectError = none
  | connector name => name.Ready s

theorem ready_congr (p : Provider) {s t : Session} (h : t.world = s.world) :
    p.Ready t ↔ p.Ready s := by
  cases p with
  | brought style =>
    have hscript : t.world.script = s.world.script := congrArg Session.script h
    have hconnect : t.script.connectError = s.script.connectError :=
      congrArg Database.Script.connectError hscript
    rw [Ready, Ready, hconnect]
  | connector name => exact name.ready_congr h

/-- A statement is sent, or the run fails without it because a provider is not
ready. -/
def sending (p : Provider) (st : String × Database.SentParameters) : Sending :=
  fun s l ok => l = [st] ∨ l = [] ∧ ok = false ∧ ¬ p.Ready s

theorem steady_sending (p : Provider) (st : String × Database.SentParameters) :
    (p.sending st).Steady := by
  refine ⟨fun s t l ok hworld h => ?_, fun s l ok h => ?_⟩
  · rwa [sending, ← p.ready_congr hworld]
  · exact h.imp_right fun ⟨_, hok, _⟩ => by cases hok

/-- What is done on a connection of a provider is done once, or not at all if the
provider gives none. -/
theorem withConnection_sends {α : Type} (p : Provider) {m : Run α}
    {st : String × Database.SentParameters} (h : m.SendsOnce st) :
    (p.withConnection m).Sends (p.sending st) := by
  cases p with
  | connector name =>
    refine (name.withConnection_sends h).mono fun s r es t hsent => hsent.imp_right ?_
    rintro ⟨hes, ⟨e, rfl⟩, hready⟩
    exact ⟨hes, rfl, hready⟩
  | brought style =>
    -- a connection that is brought fails on entry or not at all
    have hentry : withConnection.failOnEntry.Does fun s r es t =>
        sent es = [] ∧ ((∃ e, r = .error e) → s.script.connectError ≠ none) := by
      intro s
      cases hconnect : s.script.connectError with
      | none =>
        have hrun : withConnection.failOnEntry.run s = (.ok (), s) := by
          simp [withConnection.failOnEntry, Run.run_bind, hconnect, Database.failWith]
        exact ⟨[], by rw [hrun, List.append_nil], rfl, by simp [hrun]⟩
      | some e =>
        have hrun : withConnection.failOnEntry.run s = (.error e, s) := by
          simp [withConnection.failOnEntry, Run.run_bind, hconnect, Database.failWith]
        exact ⟨[], by rw [hrun, List.append_nil], rfl, fun _ => by simp [hconnect]⟩
    have hdone : ∀ u : Unit, SendsOnce (m.thenAlways (Run.ask .leave)) st :=
      fun _ => h.thenAlways (Quiet.ask rfl)
    refine (Run.Does.bind (Run.Does.ask .enter) fun _ => Run.Does.bind hentry hdone).mono ?_
    rintro s r es t (⟨e, -, herror, -⟩ | ⟨u, s', es₁, es₂, rfl, ⟨-, rfl, rfl⟩, hrest⟩)
    · cases herror
    · rcases hrest with ⟨e, rfl, hes, hconnect⟩ | ⟨u, s'', es₃, es₄, rfl, ⟨hes₃, -⟩, hes₄⟩
      · exact .inr ⟨hes, rfl, hconnect ⟨e, rfl⟩⟩
      · left
        rw [Database.sent_append, Database.sent_append, hes₃, hes₄]
        rfl

end Provider

/-! ## Operations -/

namespace Operation

open Run (Quiet Silent)

theorem quiet_wrap (name operation : String) (entity : Option String) (e : Fault) :
    Quiet (wrap name operation entity e) := by
  unfold wrap
  split
  · exact Quiet.pure _
  · exact Quiet.pure _
  · exact (Silent.error _ _).quiet.bind fun _ => Quiet.pure _

theorem silent_tellDone (name : String) (success : Bool) (operation entity : String)
    (details : Value) : Silent (tellDone name success operation entity details) := by
  unfold tellDone
  cases success
  · exact Silent.warning _ _
  · exact Silent.info _ _

/-- Guarding a run changes neither what it sends nor whether it fails. -/
theorem guard_sends {α : Type} (name operation : String) (entity : Option String) {m : Run α}
    {Q : Sending} (h : m.Sends Q) : (guard name operation entity m).Sends Q := by
  -- telling a fault under another name sends nothing, and it stays a fault
  have hwrap : ∀ e, (do throw (← wrap name operation entity e) : Run α).Does
      fun _ r es _ => sent es = [] ∧ r.isOk = false := by
    intro e
    refine (Run.Does.bind (quiet_wrap name operation entity e) Run.Does.throw).mono ?_
    rintro s r es t (⟨e', rfl, hes⟩ | ⟨e', u, es₁, es₂, rfl, hes₁, ⟨rfl, rfl, -⟩⟩)
    · exact ⟨hes, rfl⟩
    · exact ⟨by rw [List.append_nil, hes₁], rfl⟩
  have hguard : (guard name operation entity m).Does (Run.Then
      (fun s r es _ => ∃ r' : Except Fault α, r = .ok r' ∧ Q s (sent es) r'.isOk)
      fun r _ r' es _ => sent es = [] ∧ r'.isOk = r.isOk) := by
    refine Run.Does.bind (Run.Does.attempt h) fun r => ?_
    cases r with
    | ok a => exact (Run.Does.pure a).mono fun s r es t hr => ⟨by rw [hr.2.1]; rfl, by rw [hr.1]⟩
    | error e => exact hwrap e
  refine hguard.mono ?_
  rintro s r es t (⟨e, rfl, r', herror, -⟩ | ⟨r', u, es₁, es₂, rfl, ⟨r'', hr, hsent⟩, hes₂, hok⟩)
  · cases herror
  · obtain rfl := Except.ok.inj hr
    rw [Database.sent_append, hes₂, List.append_nil, hok]
    exact hsent

end Operation

namespace Executor

variable (x : Executor)

/-- A statement that is bound is sent, if the provider is ready. -/
theorem dispatch_sends {statement : String} {params : Option (List Value)}
    {st : String × Database.SentParameters} (operation entity : String)
    (h : x.bound statement params = .ok st) :
    (x.dispatch statement params operation entity).Sends (x.provider.sending st) := by
  have hsteady := x.provider.steady_sending st
  have hsend : (x.send st.1 st.2).Sends (x.provider.sending st) :=
    x.provider.withConnection_sends
      ((Database.withCursor_sendsOnce (Database.execute_sendsOnce st.1 st.2)).bind fun o =>
        Database.quiet_commit.bind fun _ => Run.Quiet.pure o.rows)
  refine Run.Sends.within hsteady _ (Operation.guard_sends _ _ _ ?_)
  rw [h]
  exact Run.Sends.after hsteady (Run.Answers.ofExcept _)
    (Run.Sends.after hsteady (Run.Silent.debug _ _) hsend)

/-- A statement that is not bound is not sent. -/
theorem dispatch_refused {statement : String} {params : Option (List Value)} {e : Fault}
    (operation entity : String) (h : x.bound statement params = .error e) :
    (x.dispatch statement params operation entity).Sends .refused := by
  refine Run.Sends.within Sending.steady_refused _ (Operation.guard_sends _ _ _ ?_)
  rw [h]
  exact Run.Answers.sends_refused fun s => ⟨[], (List.append_nil _).symm, rfl, rfl, rfl⟩

/-- One statement is sent and read, in the style of an executor, as a row of which
something holds; or the operation fails without sending it, because the provider is not
ready or because one of so many parameters has a number with too many digits. -/
def carriesOut (count : Nat) (P : Sql.Row Value → Prop) : Sending := fun s l ok =>
  (∃ text params r, l = [(text, .given params)] ∧ Sql.row x.style text params = some r ∧ P r) ∨
    l = [] ∧ ok = false ∧ (¬ x.provider.Ready s ∨ Decimal.firstTooLong ≤ count)

theorem steady_carriesOut (count : Nat) (P : Sql.Row Value → Prop) :
    (x.carriesOut count P).Steady := by
  refine ⟨fun s t l ok hworld h => ?_, fun s l ok h => ?_⟩
  · rwa [carriesOut, ← x.provider.ready_congr hworld]
  · exact h.imp_right fun ⟨_, hok, _⟩ => by cases hok

/-- A statement that is sent as a row carries out what holds of the row. -/
theorem dispatch_carriesOut {statement : String} {params : List Value} {r : Sql.Row Value}
    {P : Sql.Row Value → Prop} (operation entity : String)
    (h : Sql.SentAs x.style statement params r) (hP : P r) :
    (x.dispatch statement (some params) operation entity).Sends
      (x.carriesOut params.length P) := by
  -- there may be so many parameters that the number of one is not read; then nothing is sent
  rcases h with ⟨text, hbind, hrow⟩ | ⟨hlarge, e, hbind⟩
  · have hbound : x.bound statement (some params) = .ok (text, .given params) := by
      rw [bound, hbind]
      rfl
    refine (x.dispatch_sends operation entity hbound).mono fun s res es t hsent => ?_
    rcases hsent with hes | ⟨hes, hok, hready⟩
    · exact .inl ⟨text, params, r, hes, hrow, hP⟩
    · exact .inr ⟨hes, hok, .inl hready⟩
  · have hbound : x.bound statement (some params) = .error (.numeral e) := by
      rw [bound, hbind]
      rfl
    exact (x.dispatch_refused operation entity hbound).mono fun s res es t ⟨hes, hok⟩ =>
      .inr ⟨hes, hok, .inr hlarge⟩

end Executor

/-! ## Instances -/

/-- What a column of a compiled model stores of an instance: the value that the
instance has for it, encoded for the type of its field. -/
def Compiled.Stores (c : Compiled) (row : Value) (name : String) (e : String × Value) : Prop :=
  ∃ f ∈ c.definition.fields, ∃ v, f.name = name ∧ row.fieldValue? name = some v ∧
    e = (name, f.type.encode v)

/-! ## What the statements of an executor say -/

namespace Compiled

variable (c : Compiled) (row : Value)

/-- A row that an instance is inserted as. -/
structure Inserts (r : Sql.Row Value) : Prop where
  action : r.action = .insert
  table : r.table = c.model
  values : List.Forall₂ (c.Stores row) c.arguments.create r.values
  key : r.key = none

/-- A row that the row of an instance is updated to. -/
structure Updates (r : Sql.Row Value) : Prop where
  action : r.action = .update
  table : r.table = c.model
  values : List.Forall₂ (c.Stores row) c.arguments.update r.values
  key : ∃ e, r.key = some e ∧ c.Stores row c.keyName e

/-- A row by which the row of an instance is deleted. -/
structure Deletes (r : Sql.Row Value) : Prop where
  action : r.action = .delete
  table : r.table = c.model
  values : r.values = []
  key : ∃ e, r.key = some e ∧ c.Stores row c.keyName e

end Compiled

/-- The names that the operations on a compiled model take are names of its fields. -/
structure Compiled.Takes (c : Compiled) : Prop where
  create : ∀ name ∈ c.arguments.create, ∃ f ∈ c.definition.fields, f.name = name
  update : ∀ name ∈ c.arguments.update, ∃ f ∈ c.definition.fields, f.name = name
  key : c.keyName ≠ "" → ∃ f ∈ c.definition.fields, f.name = c.keyName

theorem Compiled.IsModelOf.takes {settings : CompilerSettings} {c : Compiled} {model : String}
    (h : c.IsModelOf settings model c.definition.fields) : c.Takes := by
  refine ⟨fun name hname => ?_, fun name hname => ?_, fun hkey => ?_⟩
  · rw [h.create] at hname
    obtain ⟨f, hf, rfl⟩ := List.mem_map.mp hname
    exact ⟨f, (List.mem_filter.mp hf).1, rfl⟩
  · rw [h.update] at hname
    obtain ⟨f, hf, rfl⟩ := List.mem_map.mp hname
    exact ⟨f, (List.mem_filter.mp hf).1, rfl⟩
  · rw [h.keyName] at hkey ⊢
    cases hfind : c.definition.fields.find? (·.isPrimaryKey) with
    | none => exact absurd (by rw [hfind]; rfl) hkey
    | some f => exact ⟨f, List.mem_of_find?_eq_some hfind, rfl⟩

namespace Executor

variable {x : Executor} {row : Value}

/-- The parameter for a field is what its column stores. -/
theorem encode_stores {v : Value} {name : String}
    (hname : ∃ f ∈ x.compiled.definition.fields, f.name = name)
    (hv : row.fieldValue? name = some v) : x.compiled.Stores row name (name, x.encode name v) := by
  cases hfind : x.compiled.definition.field? name with
  | none =>
    obtain ⟨f, hf, hfname⟩ := hname
    exact absurd hfname (by simpa using List.find?_eq_none.mp hfind f hf)
  | some f =>
    have hfname : f.name = name := by simpa using List.find?_some hfind
    refine ⟨f, List.mem_of_find?_eq_some hfind, v, hfname, hv, ?_⟩
    rw [encode, hfind]

/-- The parameters for several fields are what their columns store. -/
theorem encodeAll_stores {names : List String} {values : List (String × Value)}
    (hnames : ∀ name ∈ names, ∃ f ∈ x.compiled.definition.fields, f.name = name)
    (h : row.Pairs names values) :
    values.map (·.1) = names ∧
      List.Forall₂ (x.compiled.Stores row) names (names.zip (x.encodeAll values)) := by
  induction h with
  | nil => exact ⟨rfl, .nil⟩
  | @cons name e names values he _ ih =>
    obtain ⟨hmap, hall⟩ := ih fun n hn => hnames n (List.mem_cons_of_mem _ hn)
    obtain ⟨hv, rfl⟩ := he
    exact ⟨by rw [List.map_cons, hmap],
      .cons (encode_stores (hnames _ List.mem_cons_self) hv) hall⟩

variable (hmodel : Sql.IsWord x.compiled.model)
  (hfields : ∀ f ∈ x.compiled.definition.fields, Sql.IsWord f.name) (ht : x.compiled.Takes)

include hfields in
theorem isWord_of_field {name : String}
    (hname : ∃ f ∈ x.compiled.definition.fields, f.name = name) : Sql.IsWord name := by
  obtain ⟨f, hf, rfl⟩ := hname
  exact hfields f hf

/-- What is done after a statement tells no more than how it went. -/
theorem dispatch_told {statement : String} {params : List Value} {r : Sql.Row Value}
    {P : Sql.Row Value → Prop} {operation entity : String} {told : Int → Run Unit}
    (h : Sql.SentAs x.style statement params r) (hP : P r) (htold : ∀ rows, (told rows).Silent) :
    (do
      let rows ← x.dispatch statement (some params) operation entity
      told rows
      return rows : Run Int).Sends (x.carriesOut params.length P) :=
  Run.Sends.bind (x.steady_carriesOut _ _) (x.dispatch_carriesOut operation entity h hP)
    fun rows => (htold rows).quiet.bind fun _ => Run.Quiet.pure rows

include hmodel hfields ht in
theorem save_sends (hrow : row.Carries x.compiled.arguments.create) :
    (x.save row).Sends
      (x.carriesOut x.compiled.arguments.create.length (x.compiled.Inserts row)) := by
  obtain ⟨values, hall⟩ := Value.carries_iff.mp hrow
  obtain ⟨hnames, hstores⟩ := encodeAll_stores ht.create hall
  have hlength : x.compiled.arguments.create.length = (x.encodeAll values).length := by
    rw [← hnames, encodeAll, List.length_map, List.length_map]
  -- the plan of the row is one, so what is sent is known before it is sent
  have hplan : x.compiled.createPlan row = .ok ⟨x.compiled.model, values⟩ :=
    Compiled.createPlan_eq_ok.mpr ⟨rfl, hall⟩
  have hsent : Sql.SentAs x.style (Statement.insert x.model (values.map (·.1)))
      (x.encodeAll values)
      ⟨.insert, x.compiled.model, x.compiled.arguments.create.zip (x.encodeAll values), none⟩ := by
    rw [hnames]
    exact Sql.sentAs_insert hmodel (fun s hs => isWord_of_field hfields (ht.create s hs)) hlength
  rw [save, hplan, hlength]
  exact Run.Sends.after (x.steady_carriesOut _ _) (Run.Answers.ofExcept _)
    (dispatch_told hsent ⟨rfl, rfl, hstores, rfl⟩ fun _ => Operation.silent_tellDone _ _ _ _ _)

/-- The plan of an update, once its key is known. -/
theorem exists_updatePlan (hkey : x.compiled.keyName ≠ "")
    (hrow : row.Carries (x.compiled.arguments.update ++ [x.compiled.keyName])) :
    ∃ values k, row.fieldValue? x.compiled.keyName = some k ∧
      row.Pairs x.compiled.arguments.update values ∧
      x.compiled.updatePlan row = .ok ⟨x.compiled.model, x.compiled.keyName, k, values⟩ := by
  obtain ⟨⟨model, key, k, values⟩, hplan⟩ :=
    (x.update_plans row).succeeds.mpr ⟨fun _ => hkey, hrow⟩
  obtain ⟨-, rfl, hall, rfl, hk⟩ := Compiled.updatePlan_eq_ok.mp hplan
  exact ⟨values, k, hk, hall, hplan⟩

include hmodel hfields ht in
theorem update_sends (hkey : x.compiled.keyName ≠ "") (hne : x.compiled.arguments.update ≠ [])
    (hrow : row.Carries (x.compiled.arguments.update ++ [x.compiled.keyName])) :
    (x.update row).Sends
      (x.carriesOut (x.compiled.arguments.update.length + 1) (x.compiled.Updates row)) := by
  obtain ⟨values, k, hk, hall, hplan⟩ := exists_updatePlan hkey hrow
  obtain ⟨hnames, hstores⟩ := encodeAll_stores ht.update hall
  have hlength : x.compiled.arguments.update.length = (x.encodeAll values).length := by
    rw [← hnames, encodeAll, List.length_map, List.length_map]
  have hvalues : values.isEmpty = false := by
    cases values with
    | nil => exact absurd hnames.symm hne
    | cons e values => rfl
  -- the key stands behind the other values, as its parameter does in the statement
  have hparams : x.encodeAll (values ++ [(x.compiled.keyName, k)]) =
      x.encodeAll values ++ [x.encode x.compiled.keyName k] := by simp [encodeAll]
  have hcount : x.compiled.arguments.update.length + 1 =
      (x.encodeAll (values ++ [(x.compiled.keyName, k)])).length := by simp [hparams, hlength]
  have hsent : Sql.SentAs x.style
      (Statement.update x.model x.compiled.keyName (values.map (·.1)))
      (x.encodeAll (values ++ [(x.compiled.keyName, k)]))
      ⟨.update, x.compiled.model, x.compiled.arguments.update.zip (x.encodeAll values),
        some (x.compiled.keyName, x.encode x.compiled.keyName k)⟩ := by
    rw [hnames, hparams]
    exact Sql.sentAs_update hmodel (isWord_of_field hfields (ht.key hkey))
      (fun s hs => isWord_of_field hfields (ht.update s hs)) hne _ hlength
  rw [update, hplan, hcount]
  refine Run.Sends.after (x.steady_carriesOut _ _) (Run.Answers.ofExcept _) ?_
  simp only [hvalues, Bool.false_eq_true, if_false]
  exact dispatch_told hsent ⟨rfl, rfl, hstores, _, rfl, encode_stores (ht.key hkey) hk⟩
    fun _ => Operation.silent_tellDone _ _ _ _ _

/-- Without fields to update nothing is sent. -/
theorem update_idle (hkey : x.compiled.keyName ≠ "") (hnil : x.compiled.arguments.update = [])
    (hrow : row.Carries (x.compiled.arguments.update ++ [x.compiled.keyName])) :
    (x.update row).Sends .idle := by
  obtain ⟨values, k, -, hall, hplan⟩ := exists_updatePlan hkey hrow
  rw [hnil] at hall
  obtain rfl := List.forall₂_nil_left_iff.mp hall
  have hanswer : (x.update row).Answers (.ok 0) := by
    rw [update, hplan]
    refine (Run.Answers.ofExcept _).after ?_
    exact (Run.Silent.warning _ _).after (Run.Answers.pure 0)
  exact hanswer.sends_idle

include hmodel hfields ht in
theorem delete_sends
    (hdelete : x.compiled.delete = Statement.delete x.compiled.model x.compiled.keyName)
    (hkey : x.compiled.keyName ≠ "") (hrow : row.Carries [x.compiled.keyName]) :
    (x.delete row).Sends (x.carriesOut 1 (x.compiled.Deletes row)) := by
  obtain ⟨k, hk⟩ := Option.isSome_iff_exists.mp (hrow x.compiled.keyName List.mem_cons_self)
  have hvalue : x.compiled.deleteValue row = .ok k := Compiled.deleteValue_eq_ok.mpr ⟨hkey, hk⟩
  have hsent : Sql.SentAs x.style x.compiled.delete (x.encodeAll [(x.compiled.keyName, k)])
      ⟨.delete, x.compiled.model, [],
        some (x.compiled.keyName, x.encode x.compiled.keyName k)⟩ := by
    rw [hdelete]
    exact Sql.sentAs_delete hmodel (isWord_of_field hfields (ht.key hkey)) _
  rw [delete, hvalue]
  exact Run.Sends.after (x.steady_carriesOut _ _) (Run.Answers.ofExcept _)
    (dispatch_told hsent ⟨rfl, rfl, rfl, _, rfl, encode_stores (ht.key hkey) hk⟩
      fun _ => Operation.silent_tellDone _ _ _ _ _)

/-- Without a key nothing is updated or deleted. -/
theorem keyless_refused (hkey : x.compiled.keyName = "") :
    (x.update row).Sends .refused ∧ (x.delete row).Sends .refused := by
  have hupdate := (x.update_plans row).refused _
    (Compiled.updatePlan_eq_error.mpr (.keyless rfl hkey))
  have hdelete := (x.delete_plans row).refused _
    (Compiled.deleteValue_eq_error.mpr (.keyless rfl hkey))
  exact ⟨hupdate.2.sends_refused, hdelete.2.sends_refused⟩

end Executor

/-- An executor of the sample model that has a field of each kind. -/
def visitsExecutor : Executor := ⟨visits, .brought none, .dollar⟩

/-- An instance of the sample model. -/
def visit : Value :=
  .dict [(.str "id", .int 7), (.str "note", .null), (.str "owner", .int 3),
    (.str "seen", .date ⟨2026, 1, 2⟩), (.str "done", .bool true)]

theorem makes_keylessNotes : Compiler.Makes .default keylessNotes := by
  refine .definition (d := keylessDefinition) (s := calmSession) ?_
  rw [(Compiler.compileDefinition_answers _ _).outcome calmSession]
  exact Except.eq_ok_of_toOption (by decide +kernel)

end Relvar
