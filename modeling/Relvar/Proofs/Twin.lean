/-
Runs in pairs. Two runs are twins if, from sessions that differ in their logs only, they ask
the database for the same things in the same order, but for the values of parameters, end in
ways that are related, and again leave sessions that differ in their logs only. Whatever is
put together from twins in the same way is twins; so are connections on which twins are run.
-/
import Relvar.Proofs.Database.Course

set_option autoImplicit false

namespace Relvar

open Database (Event SentParameters)

/-! ## Events that are alike -/

/-- Events that are the same but for the values of parameters, of which there are as many. -/
inductive Database.Event.Alike : Event → Event → Prop
  | same (ev : Event) : Alike ev ev
  | given (st : String) {ps ps' : List Value} (length : ps.length = ps'.length) :
      Alike (.execute st (.given ps)) (.execute st (.given ps'))

/-- Statements that are the same text and have as many parameters. -/
inductive Database.SentAlike : String × SentParameters → String × SentParameters → Prop
  | same (st : String × SentParameters) : SentAlike st st
  | given (text : String) {ps ps' : List Value} (length : ps.length = ps'.length) :
      SentAlike (text, .given ps) (text, .given ps')

theorem Database.SentAlike.execute {st st' : String × SentParameters} (h : SentAlike st st') :
    (Event.execute st.1 st.2).Alike (.execute st'.1 st'.2) := by
  cases h with
  | same => exact .same _
  | given text length => exact .given text length

/-- Among events that are alike, the statements are. -/
theorem Database.sent_alike {es es' : List Event} (h : List.Forall₂ Event.Alike es es') :
    List.Forall₂ SentAlike (sent es) (sent es') := by
  induction h with
  | nil => exact .nil
  | @cons ev _ _ _ h _ ih =>
    cases h with
    | same =>
      cases ev with
      | execute st params => exact .cons (.same _) ih
      | _ => exact ih
    | given st length => exact .cons (.given st length) ih

namespace Run

/-! ## Twins -/

/-- How two runs end that end in the same way: with values, or with faults, that are
related. -/
inductive Ends {α β : Type} (A : α → β → Prop) (E : Fault → Fault → Prop) :
    Except Fault α → Except Fault β → Prop
  | ok {a : α} {b : β} (value : A a b) : Ends A E (.ok a) (.ok b)
  | error {e e' : Fault} (fault : E e e') : Ends A E (.error e) (.error e')

/-- Two runs that do the same from sessions that differ in their logs only. -/
def Twin {α β : Type} (A : α → β → Prop) (E : Fault → Fault → Prop) (m : Run α) (m' : Run β) :
    Prop :=
  ∀ s s', s'.world = s.world → ∃ es es',
    Happening.events (m.run s).2.happenings = Happening.events s.happenings ++ es ∧
    Happening.events (m'.run s').2.happenings = Happening.events s'.happenings ++ es' ∧
    List.Forall₂ Event.Alike es es' ∧ Ends A E (m.run s).1 (m'.run s').1 ∧
    (m'.run s').2.world = (m.run s).2.world

section Twin

variable {α β γ δ : Type} {A : α → β → Prop} {B : γ → δ → Prop} {E E' : Fault → Fault → Prop}
  {m : Run α} {m' : Run β} {f : α → Run γ} {f' : β → Run δ}

theorem Ends.mono {r : Except Fault α} {r' : Except Fault β} {A' : α → β → Prop}
    (h : Ends A E r r') (hA : ∀ a b, A a b → A' a b) (hE : ∀ e e', E e e' → E' e e') :
    Ends A' E' r r' := by
  cases h with
  | ok value => exact .ok (hA _ _ value)
  | error fault => exact .error (hE _ _ fault)

theorem Ends.eq {r r' : Except Fault α} (h : Ends Eq Eq r r') : r = r' := by
  cases h with
  | ok value => rw [value]
  | error fault => rw [fault]

theorem Ends.refl (hE : ∀ e, E e e) (r : Except Fault α) : Ends Eq E r r := by
  cases r with
  | ok a => exact .ok rfl
  | error e => exact .error (hE e)

theorem Ends.bind {r : Except Fault α} {r' : Except Fault β} {g : α → Except Fault γ}
    {g' : β → Except Fault δ} (h : Ends A E r r') (hg : ∀ a b, A a b → Ends B E (g a) (g' b)) :
    Ends B E (r >>= g) (r' >>= g') := by
  cases h with
  | ok value => exact hg _ _ value
  | error fault => exact .error fault

/-- Runs that answer are twins if their answers are related. -/
theorem Twin.answers {r : Except Fault α} {r' : Except Fault β} (h : m.Answers r)
    (h' : m'.Answers r') (hr : Ends A E r r') : Twin A E m m' := by
  intro s s' hs
  obtain ⟨es, hes, hend, rfl, ht⟩ := h s
  obtain ⟨es', hes', hend', rfl, ht'⟩ := h' s'
  refine ⟨[], [], hes, hes', .nil, ?_, ?_⟩
  · rwa [hend, hend']
  · rw [ht', hs, ht]

theorem Twin.pure {a : α} {b : β} (h : A a b) : Twin A E (pure a) (pure b) :=
  Twin.answers (Answers.pure a) (Answers.pure b) (.ok h)

theorem Twin.ofExcept {r : Except Fault α} {r' : Except Fault β} (h : Ends A E r r') :
    Twin A E (ofExcept r) (ofExcept r') :=
  Twin.answers (Answers.ofExcept r) (Answers.ofExcept r') h

/-- Texts that are logged need not be the same. -/
theorem Twin.silent {m m' : Run Unit} (h : Silent m) (h' : Silent m') : Twin Eq E m m' :=
  Twin.answers h h' (.ok rfl)

theorem Twin.ask {e e' : Event} (h : e.Alike e') : Twin Eq E (Run.ask e) (Run.ask e') := by
  intro s s' hs
  obtain ⟨es, hes, -, rfl, -⟩ := Does.ask e s
  obtain ⟨es', hes', -, rfl, -⟩ := Does.ask e' s'
  exact ⟨[e], [e'], hes, hes', .cons h .nil, .ok rfl, hs⟩

theorem Twin.get :
    Twin (fun s s' => s'.world = s.world) E (get : Run Session) (get : Run Session) :=
  fun _ _ hs => ⟨[], [], (List.append_nil _).symm, (List.append_nil _).symm, .nil, .ok hs, hs⟩

/-- A change that has no part in the log. -/
theorem Twin.modify (change : Session → Session)
    (hkeep : ∀ s, (change s).happenings = s.happenings)
    (hworld : ∀ s, (change s).world = change s.world) :
    Twin Eq E (modify change : Run PUnit) (modify change : Run PUnit) := by
  intro s s' hs
  refine ⟨[], [], ?_, ?_, .nil, .ok rfl, ?_⟩
  · rw [run_modify, hkeep, List.append_nil]
  · rw [run_modify, hkeep, List.append_nil]
  · rw [run_modify, run_modify, hworld, hs, hworld]

theorem Twin.bind (h : Twin A E m m') (hf : ∀ a b, A a b → Twin B E (f a) (f' b)) :
    Twin B E (m >>= f) (m' >>= f') := by
  intro s s' hs
  obtain ⟨es, es', hes, hes', halike, hends, ht⟩ := h s s' hs
  rw [run_bind, run_bind]
  cases hm : m.run s with
  | mk r t =>
    cases hm' : m'.run s' with
    | mk r' t' =>
      rw [hm, hm'] at hends ht
      rw [hm] at hes
      rw [hm'] at hes'
      -- either both stop with a fault, or both go on with values that are related
      cases hends with
      | error fault => exact ⟨es, es', hes, hes', halike, .error fault, ht⟩
      | @ok a b value =>
        obtain ⟨fs, fs', hfs, hfs', halike', hends', hu⟩ := hf a b value t t' ht
        refine ⟨es ++ fs, es' ++ fs', ?_, ?_, List.rel_append halike halike', hends', hu⟩
        · rw [hfs, hes, List.append_assoc]
        · rw [hfs', hes', List.append_assoc]

theorem Twin.attempt (h : Twin A E m m') : Twin (Ends A E) E' m.attempt m'.attempt := by
  intro s s' hs
  obtain ⟨es, es', hes, hes', halike, hends, ht⟩ := h s s' hs
  exact ⟨es, es', hes, hes', halike, .ok hends, ht⟩

theorem Twin.thenAlways {cleanUp cleanUp' : Run Unit} (h : Twin A E m m')
    (hc : Twin Eq E cleanUp cleanUp') :
    Twin A E (m.thenAlways cleanUp) (m'.thenAlways cleanUp') :=
  h.attempt.bind fun _ _ hr => hc.bind fun _ _ _ => Twin.ofExcept hr

theorem Twin.within (change change' : Log.Context → Log.Context) (h : Twin A E m m') :
    Twin A E (within change m) (within change' m') := by
  intro s s' hs
  obtain ⟨es, es', hes, hes', halike, hends, ht⟩ := h
    { s with contexts := change (Log.innermost s.contexts) :: s.contexts }
    { s' with contexts := change' (Log.innermost s'.contexts) :: s'.contexts } hs
  exact ⟨es, es', hes, hes', halike, hends, ht⟩

end Twin

theorem twin_settings : Twin Eq Eq settings settings := by
  refine Twin.get.bind fun s s' hs => ?_
  have hsettings : s'.settings = s.settings := part_of_world Session.settings (fun _ => rfl) hs
  have henvironment : s'.environment = s.environment := environment_of_world hs
  -- the two sessions differ only in what has happened, and the settings do not depend on that
  rw [hsettings, henvironment]
  cases s.settings with
  | some known => exact Twin.pure rfl
  | none =>
    refine (Twin.ofExcept (Ends.refl (fun _ => rfl) _)).bind fun read _ hread => ?_
    obtain rfl := hread
    exact (Twin.modify (fun s => { s with settings := some read }) (fun _ => rfl)
      fun _ => rfl).bind fun _ _ _ => Twin.pure rfl

end Run

namespace Database

open Run (Twin Answers)

/-! ## Statements -/

theorem twin_nextOutcome : Twin Eq Eq nextOutcome nextOutcome := by
  intro s s' hs
  have hscript : s'.script = s.script := Run.script_of_world hs
  -- both take the same outcome from the same script, and are left with the same rest of it
  rw [Run.run_nextOutcome, Run.run_nextOutcome, hscript]
  refine ⟨[], [], (List.append_nil _).symm, (List.append_nil _).symm, .nil, .ok rfl, ?_⟩
  have hworld := congrArg (fun u : Session => { u with script := s.script.advance }) hs
  exact hworld

theorem twin_failWith (e : Option Fault) : Twin Eq Eq (failWith e) (failWith e) :=
  Twin.answers (failWith_answers e) (failWith_answers e) (Run.Ends.refl (fun _ => rfl) _)

/-- Statements that are alike are answered in the same way. -/
theorem twin_execute {st st' : String × SentParameters} (h : SentAlike st st') :
    Twin Eq Eq (execute st.1 st.2) (execute st'.1 st'.2) := by
  refine (Twin.ask h.execute).bind fun _ _ _ => twin_nextOutcome.bind fun o _ ho => ?_
  obtain rfl := ho
  exact (twin_failWith o.error).bind fun _ _ _ => Twin.pure rfl

theorem twin_commit : Twin Eq Eq commit commit := by
  refine (Twin.ask (.same _)).bind fun _ _ _ => Twin.get.bind fun s s' hs => ?_
  have hscript : s'.script = s.script := Run.script_of_world hs
  rw [hscript]
  exact twin_failWith _

variable {α : Type} {m m' : Run α}

theorem twin_withCursor (h : Twin Eq Eq m m') : Twin Eq Eq (withCursor m) (withCursor m') :=
  (Twin.ask (.same _)).bind fun _ _ _ => h.thenAlways (Twin.ask (.same _))

theorem twin_onScript (h : Twin Eq Eq m m') : Twin Eq Eq (onScript m) (onScript m') := by
  refine Twin.get.bind fun s s' hs => ?_
  have hupcoming : s'.upcoming = s.upcoming := Run.upcoming_of_world hs
  rw [hupcoming]
  refine h.thenAlways ?_
  cases s.upcoming with
  | nil => exact Twin.pure rfl
  | cons script rest =>
    exact Twin.modify (fun s => { s with script := script, upcoming := rest })
      (fun _ => rfl) fun _ => rfl

end Database

namespace ConnectorName

open Run (Twin Answers Silent)

/-! ## Connections -/

variable (name : ConnectorName)

theorem twin_put (c : Connector) :
    Twin Eq Eq (modify (name.put c) : Run PUnit) (modify (name.put c) : Run PUnit) := by
  refine Twin.modify (name.put c) (fun _ => name.happenings_put) fun s => ?_
  cases name <;> rfl

theorem twin_get : Twin Eq Eq name.get name.get := by
  refine Twin.get.bind fun s s' hs => ?_
  rw [name.find?_of_world hs]
  cases name.find? s with
  | some c => exact Twin.pure rfl
  | none =>
    have hmake : Twin Eq Eq (name.make none none) (name.make none none) := by
      refine Run.twin_settings.bind fun settings _ hsettings => ?_
      obtain rfl := hsettings
      exact (Twin.pure (a := settings.database) rfl).bind fun d _ hd => hd ▸ name.twin_put ⟨d, none⟩
    refine hmake.bind fun _ _ _ => Twin.get.bind fun t t' ht => ?_
    rw [name.find?_of_world ht]
    exact Twin.pure rfl

theorem twin_findAddress (settings : DatabaseSettings) :
    Twin Eq Eq (findAddress settings) (findAddress settings) := by
  unfold findAddress
  split
  · exact Twin.pure rfl
  · refine Twin.get.bind fun s s' hs => ?_
    have henvironment : s'.environment = s.environment := Run.environment_of_world hs
    rw [henvironment]
    refine (Twin.ofExcept (Run.Ends.refl (fun _ => rfl) _)).bind fun a _ ha => ?_
    obtain rfl := ha
    exact (Twin.silent (Silent.debug _ _) (Silent.debug _ _)).bind fun _ _ _ => Twin.pure rfl

theorem twin_address : Twin Eq Eq name.address name.address := by
  refine name.twin_get.bind fun c _ hc => ?_
  obtain rfl := hc
  cases c.address with
  | some known => exact Twin.pure rfl
  | none =>
    refine (twin_findAddress c.settings).bind fun found _ hfound => ?_
    obtain rfl := hfound
    exact (name.twin_put _).bind fun _ _ _ => Twin.pure rfl

theorem twin_establish : Twin Eq Eq name.establish name.establish := by
  refine (Twin.silent (Silent.debug _ _) (Silent.debug _ _)).bind fun _ _ _ =>
    name.twin_get.bind fun c _ hc => name.twin_address.bind fun address _ haddress => ?_
  obtain rfl := hc
  obtain rfl := haddress
  refine (Twin.ask (.same _)).bind fun _ _ _ => Twin.get.bind fun s s' hs => ?_
  have hscript : s'.script = s.script := Run.script_of_world hs
  rw [hscript]
  exact Twin.answers (connected_answers _) (connected_answers _) (Run.Ends.refl (fun _ => rfl) _)

theorem twin_settle {α : Type} (r : Except Fault α) : Twin Eq Eq (settle r) (settle r) := by
  cases r with
  | ok a => exact Twin.pure rfl
  | error e =>
    refine (Twin.silent (silent_tellReported e) (silent_tellReported e)).bind fun _ _ _ => ?_
    split
    · exact Twin.ask (.same _)
    · exact Twin.pure rfl

/-- Twins are run on connections in the same way. -/
theorem twin_withConnection {α : Type} {m m' : Run α} (h : Twin Eq Eq m m') :
    Twin Eq Eq (name.withConnection m) (name.withConnection m') := by
  refine Database.twin_onScript (name.twin_establish.bind fun _ _ _ =>
    h.attempt.bind fun r r' hr => ?_)
  obtain rfl := hr.eq
  exact (twin_settle r).bind fun _ _ _ => (Twin.ask (.same _)).bind fun _ _ _ =>
    Twin.ofExcept hr

end ConnectorName

end Relvar
