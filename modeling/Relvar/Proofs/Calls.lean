/-
Calls of the operations of an executor, and the course that each of them takes. A call is
refused before anything is asked for, or it is an update that has nothing to set, or the one
statement that it asks for is sent on a connection of its own; its fault is wrapped once with
the operation and the entity of the call. Whatever its course is, a call leaves what its
connector connects to as it is.
-/
import Relvar.Proofs.Database.Course
import Relvar.Proofs.Database.Steady
import Relvar.Proofs.Execution

set_option autoImplicit false

namespace Relvar

open Database (Event Script SentParameters Target)

/-! ## Wrapping -/

namespace Operation

open Run (Answers Silent)

/-- What an operation on an entity raises because of a fault: a refusal of a declaration or
of an instance is passed on, and all else is wrapped. -/
def raised (operation entity : String) : Fault → Fault
  | .declaration e => .declaration e
  | .binding e => .binding e
  | e => .execution operation (some entity) e

theorem wrap_answers (name operation entity : String) (e : Fault) :
    (wrap name operation (some entity) e).Answers (.ok (raised operation entity e)) := by
  cases e with
  | declaration e => exact Answers.pure _
  | binding e => exact Answers.pure _
  | _ => exact (Silent.error _ _).after (Answers.pure _)

/-- A guarded run ends as the run does, but for the fault that it raises. -/
theorem guard_scripted {α : Type} {m : Run α}
    {Q : Session → Except Fault α → List Event → Prop} (name operation entity : String)
    (h : m.Scripted Q) : (guard name operation (some entity) m).Scripted fun s r es =>
      ∃ r', Q s r' es ∧ r = r'.mapError (raised operation entity) := by
  refine h.attempt fun r => ?_
  cases r with
  | ok a => exact Answers.pure a
  | error e => exact (wrap_answers name operation entity e).after (Answers.throw _)

end Operation

namespace Executor

/-! ## Calls -/

/-- A call of an operation of an executor. -/
inductive Call
  | createTable
  | save (row : Value)
  | update (row : Value)
  | delete (row : Value)

namespace Call

/-- Carries out a call. The creation of a table counts no rows. -/
def run (x : Executor) : Call → Run (Option Int)
  | createTable => do
    x.createTable
    return none
  | save row => do return some (← x.save row)
  | update row => do return some (← x.update row)
  | delete row => do return some (← x.delete row)

/-- What a call returns of a count of rows. -/
def count : Call → Int → Option Int
  | createTable, _ => none
  | _, rows => some rows

/-- What an executor calls the operation of a call. -/
def operation (x : Executor) : Call → String
  | createTable => s!"{x.model} create table"
  | save _ => s!"{x.model} insert"
  | update _ => s!"{x.model} update"
  | delete _ => s!"{x.model} delete"

/-- What an executor calls the entity of a call: the table, or the value of the key of an
instance; an instance that is created may have none yet. -/
def entity (x : Executor) : Call → String
  | createTable => x.model
  | save row => x.entity row
  | update row | delete row => ((row.fieldValue? x.compiled.keyName).getD .null).text

/-- What a call raises because of a fault. -/
def raised (x : Executor) (call : Call) : Fault → Fault :=
  Operation.raised (call.operation x) (call.entity x)

/-- The statement that a call asks for with its parameters, if it takes any. An update
without values asks for none. -/
def request (x : Executor) : Call → Except Fault (Option (String × Option (List Value)))
  | createTable => .ok (some (x.compiled.table, none))
  | save row => do
    let plan ← x.compiled.createPlan row
    return some (Statement.insert x.model (plan.values.map (·.1)),
      some (x.encodeAll plan.values))
  | update row => do
    let plan ← x.compiled.updatePlan row
    if plan.values.isEmpty then return none
    else return some (Statement.update x.model plan.key (plan.values.map (·.1)),
      some (x.encodeAll (plan.values ++ [(plan.key, plan.keyValue)])))
  | delete row => do
    let key ← x.compiled.deleteValue row
    return some (x.compiled.delete, some (x.encodeAll [(x.compiled.keyName, key)]))

/-- The statement that a call asks for, in the style of the executor. -/
def prepare (x : Executor) (call : Call) :
    Except Fault (Option (String × SentParameters)) := do
  match ← call.request x with
  | none => return none
  | some (statement, params) => return some (← x.bound statement params)

/-- An update that has nothing to set. -/
def IsIdle (x : Executor) : Call → Prop
  | update row => ∃ plan, x.compiled.updatePlan row = .ok plan ∧ plan.values = []
  | _ => False

/-- The course of a call: it is refused before anything is asked for, or it has nothing to
do, or its statement is sent on a connection of its own to a target. -/
inductive Course (x : Executor) (target : Target) (call : Call) (script : Script) :
    Except Fault Int → List Event → Prop
  | refused {e : Fault} (refused : call.prepare x = .error e) :
      Course x target call script (.error (call.raised x e)) []
  | idle (idle : call.IsIdle x) : Course x target call script (.ok 0) []
  | prepared {st : String × SentParameters} {r : Except Fault Int} {es : List Event}
      (prepared : call.prepare x = .ok (some st))
      (connects : Database.Connects target (fun script => Database.Carries script st.1 st.2)
        script r es) :
      Course x target call script (r.mapError (call.raised x)) es

section

variable {x : Executor} {call : Call}

theorem prepare_of_request {statement : String} {params : Option (List Value)}
    (h : call.request x = .ok (some (statement, params))) :
    call.prepare x = (x.bound statement params).map some := by
  rw [prepare, h]
  rfl

theorem request_eq_none_iff : call.request x = .ok none ↔ call.IsIdle x := by
  constructor
  · -- only an update looks at its values before it asks for a statement
    intro h
    cases call with
    | createTable => cases h
    | save row =>
      obtain ⟨plan, -, h⟩ := Except.bind_eq_ok.mp h
      cases h
    | update row =>
      obtain ⟨plan, hplan, h⟩ := Except.bind_eq_ok.mp h
      by_cases hvalues : plan.values.isEmpty = true
      · exact ⟨plan, hplan, List.isEmpty_iff.mp hvalues⟩
      · rw [if_neg hvalues] at h
        cases h
    | delete row =>
      obtain ⟨v, -, h⟩ := Except.bind_eq_ok.mp h
      cases h
  · intro h
    cases call with
    | update row =>
      obtain ⟨plan, hplan, hvalues⟩ := h
      rw [request, hplan]
      show (if plan.values.isEmpty then _ else _) = _
      rw [if_pos (List.isEmpty_iff.mpr hvalues)]
      rfl
    | _ => exact h.elim

theorem prepare_eq_none_iff : call.prepare x = .ok none ↔ call.IsIdle x := by
  rw [← request_eq_none_iff]
  constructor
  · intro h
    obtain ⟨asked, hrequest, h⟩ := Except.bind_eq_ok.mp h
    cases asked with
    | none => exact hrequest
    | some asked =>
      obtain ⟨st, -, h⟩ := Except.bind_eq_ok.mp h
      cases h
  · intro h
    rw [prepare, h]
    rfl

theorem request_error {e : Fault} (h : call.request x = .error e) : ∃ b, e = .binding b := by
  cases call with
  | createTable => cases h
  | save row =>
    rcases Except.bind_eq_error.mp h with h | ⟨plan, -, h⟩
    · exact (Compiled.createPlan_eq_error.mp h).isBinding
    · cases h
  | update row =>
    rcases Except.bind_eq_error.mp h with h | ⟨plan, -, h⟩
    · exact (Compiled.updatePlan_eq_error.mp h).isBinding
    · split at h <;> cases h
  | delete row =>
    rcases Except.bind_eq_error.mp h with h | ⟨v, -, h⟩
    · exact (Compiled.deleteValue_eq_error.mp h).isBinding
    · cases h

end

end Call

/-! ## Courses of calls -/

section Courses

open Run (Answers Silent)

variable {x : Executor} {name : ConnectorName}

/-- The statement that a call asks for is dispatched, and something is made of the rows. -/
theorem dispatch_course (hx : x.provider = .connector name) {call : Call} {statement : String}
    {params : Option (List Value)} (hrequest : call.request x = .ok (some (statement, params)))
    {α : Type} {f : Int → Run α} {g : Int → α} (hf : ∀ rows, (f rows).Answers (.ok (g rows))) :
    (x.dispatch statement params (call.operation x) (call.entity x) >>= f).Scripted
      fun s r es => ∃ r', call.Course x (name.target s) s.script r' es ∧ r = r'.map g := by
  refine Run.Scripted.map (Run.Scripted.within _ ?_) hf
  have hprepare := Call.prepare_of_request hrequest
  cases hbound : x.bound statement params with
  | error e =>
    -- a statement that is not bound is refused before the provider is asked for a connection
    rw [hbound] at hprepare
    refine (Operation.guard_scripted _ _ _ (Run.fail_answers e _).scripted).mono ?_
    rintro s r es ⟨_, ⟨rfl, rfl⟩, rfl⟩
    exact .refused hprepare
  | ok st =>
    rw [hbound] at hprepare
    have hsend : (x.send st.1 st.2).Scripted fun s => Database.Connects (name.target s)
        (fun script => Database.Carries script st.1 st.2) s.script := by
      rw [send, hx]
      exact name.withConnection_connects (Database.carries st.1 st.2)
    refine (Operation.guard_scripted _ _ _ (Run.Scripted.after (Answers.ofExcept _)
      (Run.Scripted.after (Silent.debug _ _) hsend))).mono ?_
    rintro s r es ⟨r', hconnects, rfl⟩
    exact .prepared hprepare hconnects

/-- A plan that fails ends the call before anything is asked for. -/
theorem unplanned_course {call : Call} {e : Fault} (h : call.request x = .error e) {α β : Type}
    (f : α → Run β) (g : Int → β) : (Run.ofExcept (.error e) >>= f).Scripted
      fun s r es => ∃ r', call.Course x (name.target s) s.script r' es ∧ r = r'.map g := by
  refine (Run.fail_answers e f).scripted.mono ?_
  rintro s r es ⟨rfl, rfl⟩
  -- what cannot be planned is refused as it is, not wrapped
  obtain ⟨b, rfl⟩ := Call.request_error h
  have hprepare : call.prepare x = .error (.binding b) := by
    rw [Call.prepare, h]
    rfl
  exact ⟨_, .refused hprepare, rfl⟩

/-- A call that needs a plan is refused without one, before a connection is asked for, and
otherwise goes on with what the plan asks for. -/
theorem planned_course {α β : Type} {call : Call} {plan : Except Fault α} {f : α → Run β}
    {g : Int → β} {asked : α → Except Fault (Option (String × Option (List Value)))}
    (hrequest : call.request x = plan.bind asked)
    (hf : ∀ p, plan = .ok p → call.request x = asked p → (f p).Scripted fun s r es =>
      ∃ r', call.Course x (name.target s) s.script r' es ∧ r = r'.map g) :
    (Run.ofExcept plan >>= f).Scripted fun s r es =>
      ∃ r', call.Course x (name.target s) s.script r' es ∧ r = r'.map g := by
  cases plan with
  | error e => exact unplanned_course hrequest f g
  | ok p => exact Run.Scripted.after (Answers.ofExcept _) (hf p rfl hrequest)

theorem told_answers (success : Bool) (operation entity : String) (details : Value) (rows : Int) :
    (do
      Operation.tellDone className success operation entity details
      return rows : Run Int).Answers (.ok (id rows)) :=
  (Operation.silent_tellDone _ _ _ _ _).after (Answers.pure rows)

theorem skipped_answers (text : String) :
    (do
      (Operation.writer className).warning text
      return 0 : Run Int).Answers (.ok 0) :=
  (Silent.warning _ _).after (Answers.pure 0)

theorem createTable_course (hx : x.provider = .connector name) :
    x.createTable.Scripted fun s r es =>
      ∃ r', Call.createTable.Course x (name.target s) s.script r' es ∧ r = r'.map fun _ => () := by
  have hrequest : Call.createTable.request x = .ok (some (x.compiled.table, none)) := rfl
  exact dispatch_course hx hrequest fun _ => Operation.silent_tellDone _ _ _ _ _

theorem save_course (hx : x.provider = .connector name) (row : Value) :
    (x.save row).Scripted fun s r es =>
      ∃ r', (Call.save row).Course x (name.target s) s.script r' es ∧ r = r'.map id :=
  planned_course rfl fun _ _ hrequest =>
    dispatch_course hx hrequest fun _ => told_answers _ _ _ _ _

theorem update_course (hx : x.provider = .connector name) (row : Value) :
    (x.update row).Scripted fun s r es =>
      ∃ r', (Call.update row).Course x (name.target s) s.script r' es ∧ r = r'.map id := by
  refine planned_course rfl fun plan hplan hrequest => ?_
  -- without values there is nothing to set, and no statement is sent
  by_cases hvalues : plan.values.isEmpty = true
  · rw [if_pos hvalues]
    refine (skipped_answers _).scripted.mono ?_
    rintro s r es ⟨rfl, rfl⟩
    exact ⟨.ok 0, .idle ⟨plan, hplan, List.isEmpty_iff.mp hvalues⟩, rfl⟩
  · rw [if_neg hvalues] at hrequest ⊢
    have hentity : plan.keyValue.text = (Call.update row).entity x := by
      rw [Call.entity, (Compiled.updatePlan_eq_ok.mp hplan).2.keyValue, Option.getD_some]
    rw [hentity]
    exact dispatch_course hx hrequest fun rows => told_answers _ _ _ _ _

theorem delete_course (hx : x.provider = .connector name) (row : Value) :
    (x.delete row).Scripted fun s r es =>
      ∃ r', (Call.delete row).Course x (name.target s) s.script r' es ∧ r = r'.map id := by
  refine planned_course rfl fun v hplan hrequest => ?_
  -- the value of the key is what the operation is told of
  have hentity : v.text = (Call.delete row).entity x := by
    rw [Call.entity, (Compiled.deleteValue_eq_ok.mp hplan).2, Option.getD_some]
  rw [hentity]
  exact dispatch_course hx hrequest fun rows => told_answers _ _ _ _ _

/-- Every call takes its course, and returns what it counts. -/
theorem Call.run_course (hx : x.provider = .connector name) (call : Call) :
    (call.run x).Scripted fun s r es =>
      ∃ r', call.Course x (name.target s) s.script r' es ∧ r = r'.map call.count := by
  -- what a call returns is made of what its operation returns, which is made of the rows
  have hreturn : ∀ {α : Type} {m : Run α} {g : Int → α} {f : α → Option Int},
      (m.Scripted fun s r es =>
        ∃ r', call.Course x (name.target s) s.script r' es ∧ r = r'.map g) →
      (∀ rows, f (g rows) = call.count rows) →
      (m >>= fun a => pure (f a)).Scripted fun s r es =>
        ∃ r', call.Course x (name.target s) s.script r' es ∧ r = r'.map call.count := by
    intro α m g f hm hcount
    refine (hm.map fun a => Answers.pure (f a)).mono ?_
    rintro s r es ⟨_, ⟨r', hcourse, rfl⟩, rfl⟩
    refine ⟨r', hcourse, ?_⟩
    cases r' with
    | error e => rfl
    | ok rows => exact congrArg Except.ok (hcount rows)
  cases call with
  | createTable => exact hreturn (createTable_course hx) fun _ => rfl
  | save row => exact hreturn (save_course hx row) fun _ => rfl
  | update row => exact hreturn (update_course hx row) fun _ => rfl
  | delete row => exact hreturn (delete_course hx row) fun _ => rfl

/-! ## What calls leave -/

open ConnectorName (Steady steady_of_answers steady_ofExcept steady_pure)

theorem steady_dispatch (hx : x.provider = .connector name) (statement : String)
    (params : Option (List Value)) (operation entity : String) :
    name.Steady (x.dispatch statement params operation entity) := by
  have hsend : ∀ st : String × SentParameters, name.Steady (x.send st.1 st.2) := by
    intro st
    rw [send, hx]
    exact ((ConnectorName.steady_execute _ _).withCursor.bind fun o =>
      ConnectorName.steady_commit.bind fun _ => steady_pure o.rows).withConnection
  refine Steady.within _ (Steady.attempt ((steady_ofExcept _).bind fun st =>
    (steady_of_answers (Silent.debug _ _)).bind fun _ => hsend st) |>.bind fun r => ?_)
  cases r with
  | ok rows => exact steady_pure rows
  | error e => exact steady_of_answers ((Operation.wrap_answers _ _ _ e).after (Answers.throw _))

/-- A call leaves what its connector connects to. -/
theorem Call.steady_run (hx : x.provider = .connector name) (call : Call) :
    name.Steady (call.run x) := by
  have hsent : ∀ statement params operation entity (success : Int → Bool) (told : String)
      (details : Int → Value), name.Steady (do
        let rows ← x.dispatch statement params operation entity
        Operation.tellDone className (success rows) told entity (details rows)
        return rows : Run Int) := fun _ _ _ _ _ _ _ =>
    (steady_dispatch hx _ _ _ _).bind fun rows => steady_of_answers (told_answers _ _ _ _ rows)
  cases call with
  | createTable =>
    exact ((steady_dispatch hx _ _ _ _).bind fun _ =>
      steady_of_answers (Operation.silent_tellDone _ _ _ _ _)).bind fun _ => steady_pure none
  | save row =>
    exact ((steady_ofExcept _).bind fun plan => hsent _ _ _ _ (fun _ => true) _
      fun _ => .null).bind fun rows => steady_pure (some rows)
  | update row =>
    refine Steady.bind ((steady_ofExcept _).bind fun plan => ?_) fun rows =>
      steady_pure (some rows)
    split
    · exact steady_of_answers (skipped_answers _)
    · exact hsent _ _ _ _ _ _ _
  | delete row =>
    exact ((steady_ofExcept _).bind fun key => hsent _ _ _ _ _ _ _).bind fun rows =>
      steady_pure (some rows)

end Courses

end Executor

end Relvar
