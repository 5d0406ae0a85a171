/-
Values travel as parameters. What an executor does for two instances that carry values for
the same fields cannot be told apart but for the values of the parameters: the statements are
the same text with as many parameters, and what ends one call ends the other. A fault that is
wrapped names the entity of the call, which is the one part of an instance that it shows.
-/
import Relvar.Proofs.Calls
import Relvar.Proofs.Twin

set_option autoImplicit false

namespace Relvar

open Database (Event SentAlike SentParameters sent)
open Run (Ends Twin)

/-! ## Faults that are alike -/

/-- Faults that are the same, but for the entity of an operation that went wrong. -/
inductive Fault.Alike : Fault → Fault → Prop
  | same (e : Fault) : Alike e e
  | execution (operation : String) (entity entity' : Option String) (cause : Fault) :
      Alike (.execution operation entity cause) (.execution operation entity' cause)

/-- A refusal of an instance shows nothing of it, so it is the same. -/
theorem Fault.Alike.binding_iff {e e' : Fault} (h : e.Alike e') (b : BindingError) :
    e = .binding b ↔ e' = .binding b := by
  cases h with
  | same => exact Iff.rfl
  | execution => simp

/-- Faults that are the same are alike. -/
theorem Run.Ends.alike {α β : Type} {A : α → β → Prop} {r : Except Fault α} {r' : Except Fault β}
    (h : Ends A Eq r r') : Ends A Fault.Alike r r' := by
  refine h.mono (fun _ _ hvalue => hvalue) ?_
  rintro e _ rfl
  exact .same e

/-! ## Plans -/

/-- Instances that carry values for the same of several names. -/
def Value.Matches (row row' : Value) (names : List String) : Prop :=
  ∀ name ∈ names, (row.fieldValue? name).isSome = (row'.fieldValue? name).isSome

section Plans

variable {row row' : Value} {model : Option Value} {c : Compiled}

/-- A value is read of both instances, or of neither for the same reason. -/
theorem Value.readField_matches {name : String} (h : row.Matches row' [name]) :
    Ends (fun _ _ => True) Eq (row.readField name model) (row'.readField name model) := by
  have hname := h name List.mem_cons_self
  unfold readField
  cases hv : row.fieldValue? name with
  | none =>
    have hv' : row'.fieldValue? name = none := by simpa [hv] using hname.symm
    rw [hv']
    exact .error rfl
  | some v =>
    obtain ⟨v', hv'⟩ : ∃ v', row'.fieldValue? name = some v' :=
      Option.isSome_iff_exists.mp (by simpa [hv] using hname.symm)
    rw [hv']
    exact .ok trivial

/-- Values that are read of both instances are read under the same names. -/
theorem Value.readFields_matches {names : List String} (h : row.Matches row' names) :
    Ends (fun values values' => values.map (·.1) = names ∧ values'.map (·.1) = names) Eq
      (row.readFields model names) (row'.readFields model names) := by
  induction names with
  | nil => exact .ok ⟨rfl, rfl⟩
  | cons name names ih =>
    obtain ⟨hname, hnames⟩ := List.forall_mem_cons.mp h
    refine (readField_matches (by simpa [Matches] using hname)).bind fun v v' _ =>
      (ih hnames).bind ?_
    rintro values values' ⟨rfl, hvalues'⟩
    exact .ok ⟨rfl, by rw [List.map_cons, hvalues']⟩

theorem Compiled.createPlan_matches (h : row.Matches row' c.arguments.create) :
    Ends (fun plan plan' => plan.values.map (·.1) = c.arguments.create ∧
      plan'.values.map (·.1) = c.arguments.create) Eq (c.createPlan row) (c.createPlan row') :=
  (Value.readFields_matches h).bind fun _ _ hvalues => .ok hvalues

theorem Compiled.requireKey_ends (operation : String) :
    Ends (fun key key' => key = key' ∧ (key ≠ "" ∧ key = c.keyName)) Eq
      (c.requireKey operation) (c.requireKey operation) := by
  unfold requireKey
  by_cases hkey : c.keyName = ""
  · rw [if_pos hkey]
    exact .error rfl
  · rw [if_neg hkey]
    exact .ok ⟨rfl, hkey, rfl⟩

theorem Compiled.updatePlan_matches (hvalues : row.Matches row' c.arguments.update)
    (hkey : c.keyName ≠ "" → row.Matches row' [c.keyName]) :
    Ends (fun plan plan' => plan.key = plan'.key ∧ plan.values.map (·.1) = c.arguments.update ∧
      plan'.values.map (·.1) = c.arguments.update) Eq (c.updatePlan row) (c.updatePlan row') := by
  refine (requireKey_ends "update").bind ?_
  rintro key _ ⟨rfl, hne, rfl⟩
  exact (Value.readFields_matches hvalues).bind fun _ _ hvalues =>
    (Value.readField_matches (hkey hne)).bind fun _ _ _ => .ok ⟨rfl, hvalues⟩

theorem Compiled.deleteValue_matches (hkey : c.keyName ≠ "" → row.Matches row' [c.keyName]) :
    Ends (fun _ _ => True) Eq (c.deleteValue row) (c.deleteValue row') := by
  refine (requireKey_ends "delete").bind ?_
  rintro key _ ⟨rfl, hne, rfl⟩
  exact Value.readField_matches (hkey hne)

end Plans

/-! ## Statements -/

namespace Statement

variable {ps ps' : List Value}

/-- Which parameters are picked depends on how many there are. -/
theorem pick_matches (h : ps.length = ps'.length) (ns : List Nat) :
    Ends (fun picked picked' => picked.length = picked'.length) Eq (pick ps ns) (pick ps' ns) := by
  induction ns with
  | nil => exact .ok rfl
  | cons n ns ih =>
    unfold pick
    cases n with
    | zero =>
      rw [h]
      exact .error rfl
    | succ n =>
      by_cases hn : n < ps.length
      · have hn' : n < ps'.length := h ▸ hn
        simp only [Nat.add_sub_cancel, List.getElem?_eq_getElem hn, List.getElem?_eq_getElem hn']
        exact ih.bind fun _ _ hlength => .ok (congrArg Nat.succ hlength)
      · have hn' : ¬ n < ps'.length := h ▸ hn
        simp only [Nat.add_sub_cancel, List.getElem?_eq_none (Nat.le_of_not_lt hn),
          List.getElem?_eq_none (Nat.le_of_not_lt hn'), h]
        exact .error rfl

/-- A statement is bound to as many parameters as the same text, or for the same reason not
at all. -/
theorem bind_matches (style : BindStyle) (statement : String) (h : ps.length = ps'.length) :
    Ends (fun st st' => st.1 = st'.1 ∧ st.2.length = st'.2.length) Eq
      (bind style statement ps) (bind style statement ps') := by
  refine (Ends.refl (fun _ => rfl) _).bind fun ns _ hns => ?_
  obtain rfl := hns
  refine (pick_matches h ns).bind fun picked picked' hpicked => ?_
  cases style with
  | qmark => exact .ok ⟨rfl, hpicked⟩
  | format => exact .ok ⟨rfl, hpicked⟩
  | numeric => exact .ok ⟨rfl, h⟩
  | dollar => exact .ok ⟨rfl, h⟩

end Statement

/-! ## Operations -/

namespace Operation

/-- What is raised on either entity is alike. -/
theorem raised_alike (operation entity entity' : String) (e : Fault) :
    (raised operation entity e).Alike (raised operation entity' e) := by
  cases e with
  | declaration e => exact .same _
  | binding e => exact .same _
  | _ => exact .execution _ _ _ _

theorem twin_guard {α : Type} {m m' : Run α} (name operation entity entity' : String)
    (h : Twin Eq Eq m m') : Twin Eq Fault.Alike (guard name operation (some entity) m)
      (guard name operation (some entity') m') := by
  refine h.attempt.bind fun r r' hr => ?_
  obtain rfl := hr.eq
  cases r with
  | ok a => exact Twin.pure rfl
  | error e =>
    exact Twin.answers ((wrap_answers name operation entity e).after (Run.Answers.throw _))
      ((wrap_answers name operation entity' e).after (Run.Answers.throw _))
      (.error (raised_alike operation entity entity' e))

end Operation

namespace Provider

theorem twin_withConnection {α : Type} (p : Provider) {m m' : Run α} (h : Twin Eq Eq m m') :
    Twin Eq Eq (p.withConnection m) (p.withConnection m') := by
  cases p with
  | connector name => exact name.twin_withConnection h
  | brought style =>
    have hentry : Twin Eq Eq withConnection.failOnEntry withConnection.failOnEntry := by
      refine Twin.get.bind fun s s' hs => ?_
      have hscript : s'.script = s.script := Run.script_of_world hs
      rw [hscript]
      exact Database.twin_failWith _
    exact (Twin.ask (.same _)).bind fun _ _ _ => hentry.bind fun _ _ _ =>
      h.thenAlways (Twin.ask (.same _))

end Provider

/-! ## Executors -/

/-- Nothing is sent, or one statement with values for its parameters. -/
def Sending.parametrised : Sending := fun _ l _ => l = [] ∨ ∃ text ps, l = [(text, .given ps)]

theorem Sending.steady_parametrised : parametrised.Steady :=
  ⟨fun _ _ _ _ _ h => h, fun _ _ _ h => h⟩

namespace Executor

variable {x : Executor} {row row' : Value}

theorem bound_matches {ps ps' : List Value} (statement : String) (h : ps.length = ps'.length) :
    Ends SentAlike Eq (x.bound statement (some ps)) (x.bound statement (some ps')) := by
  refine (Statement.bind_matches x.style statement h).bind ?_
  rintro ⟨text, ordered⟩ ⟨_, ordered'⟩ ⟨rfl, hlength⟩
  exact .ok (.given text hlength)

theorem twin_send {st st' : String × SentParameters} (h : SentAlike st st') :
    Twin Eq Eq (x.send st.1 st.2) (x.send st'.1 st'.2) := by
  refine x.provider.twin_withConnection ((Database.twin_withCursor
    (Database.twin_execute h)).bind fun o _ ho => ?_)
  obtain rfl := ho
  exact Database.twin_commit.bind fun _ _ _ => Twin.pure rfl

theorem twin_dispatch {ps ps' : List Value} (statement operation entity entity' : String)
    (h : ps.length = ps'.length) :
    Twin Eq Fault.Alike (x.dispatch statement (some ps) operation entity)
      (x.dispatch statement (some ps') operation entity') := by
  refine Twin.within _ _ (Operation.twin_guard _ operation entity entity' ?_)
  refine (Twin.ofExcept (bound_matches statement h)).bind fun st st' hst => ?_
  exact (Twin.silent (Run.Silent.debug _ _) (Run.Silent.debug _ _)).bind fun _ _ _ =>
    twin_send hst

/-- Whatever is told of the rows, they are returned. -/
theorem twin_told {m m' : Run Int} {told told' : Int → Run Unit} (h : Twin Eq Fault.Alike m m')
    (htold : ∀ rows, (told rows).Silent) (htold' : ∀ rows, (told' rows).Silent) :
    Twin Eq Fault.Alike (do let rows ← m; told rows; return rows)
      (do let rows ← m'; told' rows; return rows) := by
  refine h.bind fun rows _ hrows => ?_
  obtain rfl := hrows
  exact (Twin.silent (htold rows) (htold' rows)).bind fun _ _ _ => Twin.pure rfl

theorem encodeAll_length {values values' : List (String × Value)}
    (h : values.map (·.1) = values'.map (·.1)) :
    (x.encodeAll values).length = (x.encodeAll values').length := by
  have hlength : values.length = values'.length := by
    rw [← List.length_map (·.1), h, List.length_map]
  rw [encodeAll, encodeAll, List.length_map, List.length_map, hlength]

/-! ## Calls -/

theorem twin_save (h : row.Matches row' x.compiled.arguments.create) :
    Twin Eq Fault.Alike (x.save row) (x.save row') := by
  refine (Twin.ofExcept (Compiled.createPlan_matches h).alike).bind ?_
  rintro plan plan' ⟨hnames, hnames'⟩
  rw [hnames, hnames']
  exact twin_told (twin_dispatch _ _ _ _ (encodeAll_length (hnames.trans hnames'.symm)))
    (fun _ => Operation.silent_tellDone _ _ _ _ _) fun _ => Operation.silent_tellDone _ _ _ _ _

theorem twin_update (hvalues : row.Matches row' x.compiled.arguments.update)
    (hkey : x.compiled.keyName ≠ "" → row.Matches row' [x.compiled.keyName]) :
    Twin Eq Fault.Alike (x.update row) (x.update row') := by
  refine (Twin.ofExcept (Compiled.updatePlan_matches hvalues hkey).alike).bind ?_
  rintro ⟨_, key, k, values⟩ ⟨_, _, k', values'⟩ ⟨rfl, hnames, hnames'⟩
  -- whether there is something to set depends on the names alone
  have hempty : values'.isEmpty = values.isEmpty := by
    rw [← List.isEmpty_map (f := (·.1)), hnames', ← hnames, List.isEmpty_map]
  simp only [hempty]
  by_cases hidle : values.isEmpty = true
  · rw [if_pos hidle, if_pos hidle]
    exact (Twin.silent (Run.Silent.warning _ _) (Run.Silent.warning _ _)).bind fun _ _ _ =>
      Twin.pure rfl
  · rw [if_neg hidle, if_neg hidle, hnames, hnames']
    refine twin_told (twin_dispatch _ _ _ _ (encodeAll_length ?_))
      (fun _ => Operation.silent_tellDone _ _ _ _ _) fun _ => Operation.silent_tellDone _ _ _ _ _
    simp only [List.map_append, hnames, hnames', List.map_cons, List.map_nil]

theorem twin_delete (hkey : x.compiled.keyName ≠ "" → row.Matches row' [x.compiled.keyName]) :
    Twin Eq Fault.Alike (x.delete row) (x.delete row') := by
  refine (Twin.ofExcept (Compiled.deleteValue_matches hkey).alike).bind fun k k' _ => ?_
  exact twin_told (twin_dispatch _ _ _ _ (encodeAll_length rfl))
    (fun _ => Operation.silent_tellDone _ _ _ _ _) fun _ => Operation.silent_tellDone _ _ _ _ _

/-! ## What is sent -/

/-- A plan that fails ends a call before anything is sent. -/
theorem plan_sends {α β : Type} {plan : Except Fault α} {f : α → Run β}
    (h : ∀ a, (f a).Sends .parametrised) : (Run.ofExcept plan >>= f).Sends .parametrised := by
  cases plan with
  | error e =>
    exact (Run.fail_answers e f).sends_refused.mono fun _ _ _ _ hsent => .inl hsent.1
  | ok a => exact Run.Sends.after Sending.steady_parametrised (Run.Answers.ofExcept _) (h a)

theorem dispatch_parametrised (statement operation entity : String) (ps : List Value)
    {told : Int → Run Unit} (htold : ∀ rows, (told rows).Silent) :
    (do
      let rows ← x.dispatch statement (some ps) operation entity
      told rows
      return rows : Run Int).Sends .parametrised := by
  refine Run.Sends.bind Sending.steady_parametrised ?_ fun rows =>
    (htold rows).quiet.bind fun _ => Run.Quiet.pure rows
  cases hbound : x.bound statement (some ps) with
  | error e =>
    exact (x.dispatch_refused operation entity hbound).mono fun _ _ _ _ hsent => .inl hsent.1
  | ok st =>
    obtain ⟨bound, -, hst⟩ := Except.bind_eq_ok.mp hbound
    obtain rfl := Except.ok.inj hst
    exact (x.dispatch_sends operation entity hbound).mono fun _ _ _ _ hsent =>
      hsent.elim (fun hes => .inr ⟨_, _, hes⟩) fun hes => .inl hes.1

theorem save_parametrised (row : Value) : (x.save row).Sends .parametrised :=
  plan_sends fun _ => dispatch_parametrised _ _ _ _ fun _ => Operation.silent_tellDone _ _ _ _ _

theorem update_parametrised (row : Value) : (x.update row).Sends .parametrised := by
  refine plan_sends fun plan => ?_
  by_cases hidle : plan.values.isEmpty = true
  · rw [if_pos hidle]
    exact (skipped_answers _).sends_idle.mono fun _ _ _ _ hsent => .inl hsent.1
  · rw [if_neg hidle]
    exact dispatch_parametrised _ _ _ _ fun _ => Operation.silent_tellDone _ _ _ _ _

theorem delete_parametrised (row : Value) : (x.delete row).Sends .parametrised :=
  plan_sends fun _ => dispatch_parametrised _ _ _ _ fun _ => Operation.silent_tellDone _ _ _ _ _

/-! ## Calls for two instances -/

/-- Two calls that cannot be told apart but for the values of parameters, and for the entity
that a fault names. -/
structure Indistinct (r r' : Except Fault (Option Int)) (es es' : List Event) : Prop where
  outcome : Ends Eq Fault.Alike r r'
  events : List.Forall₂ Event.Alike es es'
  /-- Neither call sends a statement, or both send the same text with as many parameters. -/
  statements : sent es = [] ∧ sent es' = [] ∨ ∃ text ps ps', sent es = [(text, .given ps)] ∧
    sent es' = [(text, .given ps')] ∧ ps.length = ps'.length
  /-- If one call is refused because of its instance, so is the other, with the same message. -/
  refusals : ∀ b, r = .error (.binding b) ↔ r' = .error (.binding b)

theorem indistinct_of_alike {r r' : Except Fault (Option Int)} {es es' : List Event}
    (hends : Ends Eq Fault.Alike r r') (hevents : List.Forall₂ Event.Alike es es')
    (hsent : sent es = [] ∨ ∃ text ps, sent es = [(text, .given ps)]) :
    Indistinct r r' es es' where
  outcome := hends
  events := hevents
  statements := by
    have halike := Database.sent_alike hevents
    rcases hsent with hnone | ⟨text, ps, hone⟩
    · rw [hnone] at halike
      exact .inl ⟨hnone, List.forall₂_nil_left_iff.mp halike⟩
    · rw [hone] at halike
      obtain ⟨st, rest, hst, hrest, hsent'⟩ := List.forall₂_cons_left_iff.mp halike
      obtain rfl := List.forall₂_nil_left_iff.mp hrest
      cases hst with
      | same => exact .inr ⟨text, ps, ps, hone, hsent', rfl⟩
      | @given _ _ ps' length => exact .inr ⟨text, ps, ps', hone, hsent', length⟩
  refusals := by
    intro b
    cases hends with
    | ok => simp
    | error fault => simpa using fault.binding_iff b

/-- An instance of the sample model that has the same fields as the other, with other
values. -/
def quotedVisit : Value :=
  .record [("id", .null), ("note", .str "'); drop table visits; --"), ("owner", .null),
    ("seen", .null), ("done", .bool false)]

/-- What an instance says stays a parameter. -/
example : Happening.events (((Call.update quotedVisit).run visitsExecutor).run
    calmSession).2.happenings =
    [.enter, .openCursor,
      .execute "update visits set note=$1, owner=$2, seen=$3, done=$4 where id=$5;"
        (.given [.str "'); drop table visits; --", .null, .null, .int 0, .null]),
      .closeCursor, .commit, .leave] := rfl

end Executor

end Relvar
