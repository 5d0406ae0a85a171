/-
What runs add to what happened. A frame for whole runs: if nothing that a run does is of some
kind, the run adds nothing of that kind. Compiling, registering and telling of a migration do
no more than log, and connections do no more than log and ask; so printing and writing files
are left to those who do them in so many words.
-/
import Relvar.Catalogue
import Relvar.Migration
import Relvar.Proofs.Compilation.Log

set_option autoImplicit false

namespace Relvar

/-- Where nothing was asked for there are no events. -/
theorem Happening.events_of_unasked {hs : List Happening} (h : ∀ x ∈ hs, ∀ e, x ≠ .asked e) :
    events hs = [] := by
  induction hs with
  | nil => rfl
  | cons x hs ih =>
    obtain ⟨hx, hrest⟩ := List.forall_mem_cons.mp h
    cases x with
    | asked e => exact absurd rfl (hx e)
    | _ => exact ih hrest

namespace Run

/-! ## Runs that add such things -/

/-- A run that adds nothing but such things to what happened. -/
def Adds {α : Type} (m : Run α) (p : Happening → Prop) : Prop :=
  ∀ s, ∃ hs, (m.run s).2.happenings = s.happenings ++ hs ∧ ∀ h ∈ hs, p h

section Adds

variable {α β : Type} {m : Run α} {f : α → Run β} {p : Happening → Prop}

/-- A run that leaves what happened as it was. -/
theorem adds_of_eq (h : ∀ s, (m.run s).2.happenings = s.happenings) : m.Adds p :=
  fun s => ⟨[], by rw [h s, List.append_nil], by simp⟩

theorem Adds.pure (a : α) : (pure a : Run α).Adds p := adds_of_eq fun _ => rfl

theorem Adds.throw (e : Fault) : (throw e : Run α).Adds p := adds_of_eq fun _ => rfl

theorem Adds.ofExcept (r : Except Fault α) : (ofExcept r).Adds p := adds_of_eq fun _ => rfl

theorem Adds.get : (get : Run Session).Adds p := adds_of_eq fun _ => rfl

theorem Adds.modify {change : Session → Session}
    (h : ∀ s, (change s).happenings = s.happenings) : (modify change : Run PUnit).Adds p :=
  adds_of_eq h

theorem Adds.bind (h : m.Adds p) (hf : ∀ a, (f a).Adds p) : (m >>= f).Adds p := by
  intro s
  obtain ⟨hs, hrun, hall⟩ := h s
  rw [run_bind]
  cases hm : m.run s with
  | mk r t =>
    rw [hm] at hrun
    cases r with
    | error e => exact ⟨hs, hrun, hall⟩
    | ok a =>
      obtain ⟨hs', hrun', hall'⟩ := hf a t
      refine ⟨hs ++ hs', by rw [hrun', hrun, List.append_assoc], fun h hh => ?_⟩
      exact (List.mem_append.mp hh).elim (hall h) (hall' h)

theorem Adds.attempt (h : m.Adds p) : m.attempt.Adds p := h

theorem Adds.thenAlways {cleanUp : Run Unit} (h : m.Adds p) (hc : cleanUp.Adds p) :
    (m.thenAlways cleanUp).Adds p :=
  h.attempt.bind fun r => hc.bind fun _ => Adds.ofExcept r

theorem Adds.within (change : Log.Context → Log.Context) (h : m.Adds p) :
    (within change m).Adds p :=
  fun s => h { s with contexts := change (Log.innermost s.contexts) :: s.contexts }

theorem Adds.happen {h : Happening} (hp : p h) : (happen h).Adds p :=
  fun _ => ⟨[h], rfl, by simpa using hp⟩

theorem Logs.adds {r : Except Fault α} {P : Log.Context → List Log.Record → Prop}
    (h : m.Logs r P) (hlog : ∀ r, p (.logged r)) : m.Adds p := by
  intro s
  obtain ⟨rs, hrun, -⟩ := h s
  rw [hrun]
  refine ⟨rs.map .logged, rfl, fun x hx => ?_⟩
  obtain ⟨r, -, rfl⟩ := List.mem_map.mp hx
  exact hlog r

/-- A run that adds nothing that is asked for asks for nothing. -/
theorem Adds.does (h : m.Adds fun h => ∀ e, h ≠ .asked e) : m.Does fun _ _ es _ => es = [] := by
  intro s
  obtain ⟨hs, hrun, hall⟩ := h s
  exact ⟨[], by rw [hrun, Happening.events_append, Happening.events_of_unasked hall], rfl⟩

/-- What a run adds and what it does are told of together: its trace is what it asked for among
what it added. -/
theorem Adds.with_does
    {Q : Session → Except Fault α → List Database.Event → Session → Prop} (h : m.Adds p)
    (hdoes : m.Does Q) (s : Session) : ∃ hs,
    (m.run s).2.happenings = s.happenings ++ hs ∧ (∀ h ∈ hs, p h) ∧
      Q s (m.run s).1 (Happening.events hs) (m.run s).2 := by
  obtain ⟨hs, hrun, hall⟩ := h s
  obtain ⟨es, hes, hQ⟩ := hdoes s
  rw [hrun, Happening.events_append] at hes
  obtain rfl := List.append_cancel_left hes
  exact ⟨hs, hrun, hall, hQ⟩

end Adds

/-! ## Logging -/

section Logging

variable {p : Happening → Prop} (hlog : ∀ r, p (.logged r))
include hlog

theorem adds_logWith (w : Writer) (level : Log.Level) (message : Value) (args : List Value)
    (given : List (Value × Value)) : (w.logWith level message args given).Adds p := by
  unfold Writer.logWith
  split
  · exact Adds.get.bind fun s => Adds.happen (hlog _)
  · exact Adds.pure ()

theorem adds_debug (w : Writer) (text : String) : (w.debug text).Adds p :=
  adds_logWith hlog _ _ _ _ _

theorem adds_info (w : Writer) (text : String) : (w.info text).Adds p :=
  adds_logWith hlog _ _ _ _ _

theorem adds_warning (w : Writer) (text : String) : (w.warning text).Adds p :=
  adds_logWith hlog _ _ _ _ _

theorem adds_error (w : Writer) (text : String) : (w.error text).Adds p :=
  adds_logWith hlog _ _ _ _ _

theorem adds_milestone (name : String) (data : Value) (writer : String) :
    (milestone name data writer).Adds p :=
  (Adds.get.bind fun _ => Adds.pure _).bind fun _ => adds_logWith hlog _ _ _ _ _

end Logging

theorem adds_settings {p : Happening → Prop} : Run.settings.Adds p := by
  refine Adds.get.bind fun s => ?_
  cases s.settings with
  | some known => exact Adds.pure known
  | none =>
    exact (Adds.ofExcept _).bind fun read =>
      (Adds.modify fun _ => rfl).bind fun _ => Adds.pure read

end Run

open Run (Adds)

/-! ## Compiling and registering -/

section Compiling

variable {p : Happening → Prop} (hlog : ∀ r, p (.logged r))
include hlog

theorem Registry.adds_compileAll (settings : CompilerSettings) (registry : Registry) :
    (registry.compileAll settings).Adds p := by
  induction registry with
  | nil => exact Adds.pure []
  | cons d rest ih =>
    exact ((Compiler.tell_logs (.ofDecl settings d)).adds hlog).bind fun c => ih.bind fun cs =>
      Adds.pure (c :: cs)

theorem Compiler.adds_declare (source name : Value) : (declare source name).Adds p := by
  have hsource : (tellSource source).Adds p := by
    unfold tellSource
    split
    · split
      · exact Run.adds_debug hlog _ _
      · exact Adds.pure ()
    · exact Adds.pure ()
  exact hsource.bind fun _ => Adds.ofExcept _

theorem Registry.adds_register (r : Registry) (source name : Value) :
    (r.register source name).Adds p := by
  unfold register
  split
  · exact Adds.pure r
  · exact (Compiler.adds_declare hlog _ _).bind fun d => (Adds.ofExcept _).bind fun r =>
      (Run.adds_debug hlog _ _).bind fun _ => Adds.pure r

theorem Registry.adds_registerAll (r : Registry) (sources : List Value) :
    (r.registerAll sources).Adds p := by
  induction sources generalizing r with
  | nil => exact Adds.pure r
  | cons source rest ih => exact (Registry.adds_register hlog r source .null).bind fun r => ih r

theorem Registry.adds_ofValue (v : Value) : (ofValue v).Adds p := by
  unfold ofValue
  split
  · split
    · exact Registry.adds_registerAll hlog _ _
    · exact Adds.throw _
  · exact Adds.pure []

theorem Catalogue.adds_load (c : Catalogue) (target : String) : (c.load target).Adds p := by
  refine (Adds.ofExcept _).bind fun v => ?_
  split
  · exact Adds.pure _
  · exact Registry.adds_ofValue hlog _
  · exact Registry.adds_ofValue hlog _
  · exact Adds.throw _

end Compiling

/-! ## Connectors -/

namespace ConnectorName

section Address

variable {p : Happening → Prop} (name : ConnectorName)

theorem adds_make (address : Option String) (given : Option DatabaseSettings) :
    (name.make address given).Adds p := by
  have hput : ∀ c, (modify (name.put c) : Run PUnit).Adds p :=
    fun c => Adds.modify fun s => by cases name <;> rfl
  cases given with
  | some settings => exact (Adds.pure settings).bind fun _ => hput _
  | none => exact Run.adds_settings.bind fun s => (Adds.pure s.database).bind fun _ => hput _

theorem adds_get : name.get.Adds p := by
  refine Adds.get.bind fun s => ?_
  cases name.find? s with
  | some c => exact Adds.pure c
  | none => exact (name.adds_make none none).bind fun _ => Adds.get.bind fun s => Adds.pure _

theorem adds_address (hlog : ∀ r, p (.logged r)) : name.address.Adds p := by
  refine name.adds_get.bind fun c => ?_
  cases c.address with
  | some known => exact Adds.pure known
  | none =>
    have hfind : (findAddress c.settings).Adds p := by
      unfold findAddress
      split
      · exact Adds.pure _
      · exact Adds.get.bind fun s => (Adds.ofExcept _).bind fun a =>
          (Run.adds_debug hlog _ _).bind fun _ => Adds.pure a.text
    exact hfind.bind fun found =>
      (Adds.modify fun s => by cases name <;> rfl).bind fun _ => Adds.pure found

end Address

end ConnectorName

/-! ## Connections -/

namespace Database

variable {α : Type} {m : Run α} {p : Happening → Prop}

theorem adds_failWith (e : Option Fault) : (failWith e).Adds p := by
  cases e with
  | none => exact Adds.pure ()
  | some e => exact Adds.throw e

theorem adds_onScript (h : m.Adds p) : (onScript m).Adds p := by
  have hgoOn : ∀ scripts, (goOn scripts).Adds p := by
    intro scripts
    cases scripts with
    | nil => exact Adds.pure ()
    | cons script rest => exact Adds.modify fun _ => rfl
  exact Adds.get.bind fun s => h.thenAlways (hgoOn s.upcoming)

section Asking

variable (hask : ∀ e, p (.asked e))
include hask

theorem adds_execute (st : String) (params : SentParameters) : (execute st params).Adds p := by
  have hnext : nextOutcome.Adds p := by
    refine Run.adds_of_eq fun s => ?_
    rw [Run.run_nextOutcome]
  exact (Adds.happen (hask _)).bind fun _ => hnext.bind fun o =>
    (adds_failWith o.error).bind fun _ => Adds.pure o

theorem adds_commit : commit.Adds p :=
  (Adds.happen (hask _)).bind fun _ => Adds.get.bind fun s => adds_failWith s.script.commitError

theorem adds_withCursor (h : m.Adds p) : (withCursor m).Adds p :=
  (Adds.happen (hask _)).bind fun _ => h.thenAlways (Adds.happen (hask _))

end Asking

end Database

section Connections

variable {p : Happening → Prop} (hlog : ∀ r, p (.logged r)) (hask : ∀ e, p (.asked e))
include hlog

theorem ConnectorName.adds_tellReported (e : Fault) : (tellReported e).Adds p := by
  unfold tellReported
  split
  · exact Run.adds_error hlog _ _
  · exact Adds.pure ()

include hask

theorem ConnectorName.adds_establish (name : ConnectorName) : name.establish.Adds p := by
  refine (Run.adds_debug hlog _ _).bind fun _ => name.adds_get.bind fun c =>
    (name.adds_address hlog).bind fun address => (Adds.happen (hask _)).bind fun _ =>
      Adds.get.bind fun s => ?_
  cases s.script.connectError with
  | none => exact Run.adds_debug hlog _ _
  | some e => exact (adds_tellReported hlog e).bind fun _ => Adds.throw e

theorem ConnectorName.adds_withConnection {α : Type} {m : Run α} (name : ConnectorName)
    (h : m.Adds p) : (name.withConnection m).Adds p := by
  -- a run that failed may roll back, which is asked of the database like any statement
  have hsettle : ∀ r : Except Fault α, (settle r).Adds p := by
    intro r
    cases r with
    | ok a => exact Adds.pure ()
    | error e =>
      refine (adds_tellReported hlog e).bind fun _ => ?_
      split
      · exact Adds.happen (hask _)
      · exact Adds.pure ()
  exact Database.adds_onScript ((name.adds_establish hlog hask).bind fun _ =>
    h.attempt.bind fun r => (hsettle r).bind fun _ => (Adds.happen (hask _)).bind fun _ =>
      Adds.ofExcept r)

theorem ConnectorName.adds_withCursor {α : Type} {m : Run α} (name : ConnectorName)
    (h : m.Adds p) : (name.withCursor m).Adds p :=
  name.adds_withConnection hlog hask (Database.adds_withCursor hask
    (h.bind fun a => (Database.adds_commit hask).bind fun _ => Adds.pure a))

theorem MigrationDatabase.adds_execute (db : MigrationDatabase) (st : String) :
    (db.execute st).Adds p := by
  cases db with
  | brought => exact (Database.adds_execute hask _ _).bind fun _ => Adds.pure ()
  | connector name =>
    exact name.adds_withCursor hlog hask
      ((Database.adds_execute hask _ _).bind fun _ => Adds.pure ())

theorem MigrationDatabase.adds_test (db : MigrationDatabase) : db.test.Adds p := by
  cases db with
  | brought =>
    exact (Adds.happen (hask _)).bind fun _ => Adds.get.bind fun s =>
      Database.adds_failWith s.script.connectError
  | connector name =>
    exact (name.adds_withCursor hlog hask ((Database.adds_execute hask _ _).bind fun o =>
      (Adds.happen (hask _)).bind fun _ => Adds.pure o.row)).bind fun _ => Adds.pure ()

end Connections

/-! ## Migrations -/

namespace Migration

variable {p : Happening → Prop} (hlog : ∀ r, p (.logged r))
include hlog

theorem adds_tellStep (x : Step) : (tellStep x).Adds p := Run.adds_info hlog _ _

theorem adds_tellDry (cs : List Compiled) : (tellDry cs).Adds p := by
  induction cs with
  | nil => exact Adds.pure ()
  | cons c cs ih => exact (Run.adds_info hlog _ _).bind fun _ => ih

theorem adds_tellStart (registry : Registry) (isDryRun : Bool) :
    (tellStart registry isDryRun).Adds p :=
  (Run.adds_info hlog _ _).bind fun _ => (Run.adds_info hlog _ _).bind fun _ =>
    (Run.adds_info hlog _ _).bind fun _ => (Run.adds_info hlog _ _).bind fun _ =>
      Run.adds_info hlog _ _

theorem adds_tellEnd (m : Migration) : (tellEnd m).Adds p := by
  have hrest : (do
      writer.info rule
      let data := [("success", .bool m.success), ("dry_run", .bool m.isDryRun),
        ("models", .int m.models.length)] ++ m.summary
      Run.milestone "migration_complete" (.dict (Dict.ofStrings data))
        Run.milestoneWriter : Run Unit).Adds p :=
    (Run.adds_info hlog _ _).bind fun _ => Run.adds_milestone hlog _ _ _
  refine (Run.adds_info hlog _ _).bind fun _ => (Run.adds_info hlog _ _).bind fun _ =>
    (Run.adds_info hlog _ _).bind fun _ => ?_
  by_cases herrors : (!m.errors.isEmpty) = true
  · rw [if_pos herrors]
    exact (Run.adds_warning hlog _ _).bind fun _ => hrest
  · rw [if_neg herrors]
    exact hrest

theorem adds_compileStep (settings : CompilerSettings) (registry : Registry) :
    (compileStep settings registry).Adds p := by
  refine (Run.adds_info hlog _ _).bind fun _ =>
    (Registry.adds_compileAll hlog settings registry).attempt.bind fun r => ?_
  split
  · exact (adds_tellStep hlog _).bind fun _ => Adds.pure _
  · exact (Run.adds_error hlog _ _).bind fun _ => (adds_tellStep hlog _).bind fun _ =>
      Adds.pure _
  · exact Adds.throw _

section Asking

variable (hask : ∀ e, p (.asked e))
include hask

theorem adds_testStep (db : MigrationDatabase) : (testStep db).Adds p := by
  have htold : ∀ x : Step, (do tellStep x; return x : Run Step).Adds p :=
    fun x => (adds_tellStep hlog x).bind fun _ => Adds.pure x
  refine (Run.adds_info hlog _ _).bind fun _ => (db.adds_test hlog hask).attempt.bind fun r => ?_
  cases r with
  | ok _ => exact (Adds.pure _).bind htold
  | error e => exact (Run.adds_error hlog _ _).bind fun _ => (Adds.pure _).bind htold

theorem adds_tableStep (db : MigrationDatabase) (c : Compiled) : (tableStep db c).Adds p := by
  have htold : ∀ x : Step, (do tellStep x; return x : Run Step).Adds p :=
    fun x => (adds_tellStep hlog x).bind fun _ => Adds.pure x
  refine (Run.adds_info hlog _ _).bind fun _ =>
    (db.adds_execute hlog hask c.table).attempt.bind fun r => ?_
  cases r with
  | ok _ => exact (Adds.pure _).bind htold
  | error e =>
    exact (Run.adds_error hlog _ _).bind fun _ => (Run.adds_debug hlog _ _).bind fun _ =>
      (Adds.pure _).bind htold

theorem adds_tableSteps (db : MigrationDatabase) (cs : List Compiled) :
    (tableSteps db cs).Adds p := by
  induction cs with
  | nil => exact Adds.pure []
  | cons c cs ih =>
    refine (Adds.within _ (adds_tableStep hlog hask db c)).bind fun x => ?_
    split
    · exact Adds.pure _
    · exact ih.bind fun xs => Adds.pure (x :: xs)

end Asking

/-- A migration does no more than log and, unless it is a dry run, ask. -/
theorem adds_run (settings : CompilerSettings) (registry : Registry) (db : MigrationDatabase)
    (isDryRun : Bool) (hask : isDryRun = true ∨ ∀ e, p (.asked e)) :
    (run settings registry db isDryRun).Adds p := by
  have hperform : ∀ blank, (perform settings registry db isDryRun blank).Adds p := by
    intro blank
    refine (adds_compileStep hlog settings registry).bind fun begun => ?_
    dsimp only
    split
    · exact Adds.pure _
    -- a dry run is over before anything is asked
    · rcases hask with rfl | hask
      · exact (adds_tellDry hlog _).bind fun _ => Adds.pure _
      · cases isDryRun with
        | true => exact (adds_tellDry hlog _).bind fun _ => Adds.pure _
        | false =>
          refine (adds_testStep hlog hask db).bind fun y => ?_
          split
          · exact Adds.pure _
          · exact (adds_tableSteps hlog hask db _).bind fun tables => Adds.pure _
  exact Adds.get.bind fun s => (adds_tellStart hlog registry isDryRun).bind fun _ =>
    (hperform _).bind fun m => (adds_tellEnd hlog m).bind fun _ => Adds.pure m

end Migration

end Relvar
