/-
Traces of runs: what a run asks the database for, next to how it ends and what
it leaves behind. A run only ever adds to what happened, so its trace is what it
has added; the trace of two runs, one after the other, is the trace of the first
with the trace of the second behind it. Logging has no trace and changes nothing
that a later step looks at.
-/
import Relvar.Executor

set_option autoImplicit false

namespace Relvar

/-! ## Events of what happened -/

theorem Happening.events_append (hs ks : List Happening) :
    events (hs ++ ks) = events hs ++ events ks := by
  induction hs with
  | nil => rfl
  | cons h hs ih => cases h <;> simp [events, ih]

/-- A session without its log: all that a later step looks at. -/
def Session.world (s : Session) : Session := { s with contexts := [], happenings := [] }

/-! ## Scripts -/

namespace Database

/-- The outcome of the next statement. -/
def Script.next (script : Script) : Outcome := script.outcomes.headD .success

/-- The script behind the next statement. -/
def Script.advance (script : Script) : Script :=
  { script with outcomes := script.outcomes.tail }

end Database

namespace Run

/-- A part of a session that the log has no part in is the same. -/
theorem part_of_world {γ : Type} (part : Session → γ) (hpart : ∀ s, part s.world = part s)
    {s s' : Session} (h : s'.world = s.world) : part s' = part s := by
  rw [← hpart s', h, hpart s]

section World

variable {s t : Session} (h : t.world = s.world)
include h

theorem script_of_world : t.script = s.script := part_of_world Session.script (fun _ => rfl) h

theorem upcoming_of_world : t.upcoming = s.upcoming :=
  part_of_world Session.upcoming (fun _ => rfl) h

theorem environment_of_world : t.environment = s.environment :=
  part_of_world Session.environment (fun _ => rfl) h

end World

/-! ## Steps -/

section Steps

variable {α β : Type}

@[simp] theorem run_pure (a : α) (s : Session) : (pure a : Run α).run s = (.ok a, s) := rfl

@[simp] theorem run_throw (e : Fault) (s : Session) :
    (throw e : Run α).run s = (.error e, s) := rfl

theorem run_bind (m : Run α) (f : α → Run β) (s : Session) :
    (m >>= f).run s = match m.run s with
      | (.ok a, t) => (f a).run t
      | (.error e, t) => (.error e, t) := by
  rw [ExceptT.run_bind]
  simp only [bind, StateT.bind]
  cases m.run s with
  | mk r t => cases r <;> rfl

@[simp] theorem run_ofExcept (r : Except Fault α) (s : Session) :
    (ofExcept r).run s = (r, s) := rfl

@[simp] theorem run_attempt (m : Run α) (s : Session) :
    (attempt m).run s = (.ok (m.run s).1, (m.run s).2) := rfl

@[simp] theorem run_get (s : Session) : (get : Run Session).run s = (.ok s, s) := rfl

@[simp] theorem run_modify (f : Session → Session) (s : Session) :
    (modify f : Run PUnit).run s = (.ok ⟨⟩, f s) := rfl

end Steps

/-- A statement is answered by the next outcome of the script, which is advanced. -/
theorem run_nextOutcome (s : Session) : Database.nextOutcome.run s =
    (.ok s.script.next, { s with script := s.script.advance }) := by
  rw [Database.nextOutcome, run_bind, run_get]
  dsimp only
  cases hs : s.script.outcomes with
  | nil =>
    -- the outcomes are used up, so the statement succeeds and the script stays empty
    have hnext : s.script.next = .success := by
      rw [Database.Script.next, hs]
      rfl
    have hadvance : s.script.advance = s.script := by
      rw [Database.Script.advance, hs, List.tail_nil, ← hs]
    rw [hnext, hadvance]
    rfl
  | cons o rest =>
    rw [Database.Script.next, Database.Script.advance, hs]
    rfl

/-! ## Traces -/

/-- What a run does: it ends in some way, with a trace, and takes the session it
starts in to another one. `Q` relates the four. -/
def Does {α : Type} (m : Run α)
    (Q : Session → Except Fault α → List Database.Event → Session → Prop) : Prop :=
  ∀ s, ∃ es, Happening.events (m.run s).2.happenings = Happening.events s.happenings ++ es ∧
    Q s (m.run s).1 es (m.run s).2

/-- What two relations say of runs one after the other: the first run fails, or
it ends with a value that the second starts from. -/
def Then {α β : Type} (P : Session → Except Fault α → List Database.Event → Session → Prop)
    (Q : α → Session → Except Fault β → List Database.Event → Session → Prop)
    (s : Session) (r : Except Fault β) (es : List Database.Event) (u : Session) : Prop :=
  (∃ e, r = .error e ∧ P s (.error e) es u) ∨
    ∃ a t es₁ es₂, es = es₁ ++ es₂ ∧ P s (.ok a) es₁ t ∧ Q a t r es₂ u

section Does

variable {α β : Type} {m : Run α} {f : α → Run β}
  {P P' : Session → Except Fault α → List Database.Event → Session → Prop}
  {Q : α → Session → Except Fault β → List Database.Event → Session → Prop}

theorem Does.mono (h : m.Does P) (imp : ∀ s r es t, P s r es t → P' s r es t) : m.Does P' := by
  intro s
  obtain ⟨es, hes, hP⟩ := h s
  exact ⟨es, hes, imp _ _ _ _ hP⟩

/-- A run has one trace, so what is known of a run in two ways holds of the same trace. -/
theorem Does.and (h : m.Does P) (h' : m.Does P') :
    m.Does fun s r es t => P s r es t ∧ P' s r es t := by
  intro s
  obtain ⟨es, hes, hP⟩ := h s
  obtain ⟨es', hes', hP'⟩ := h' s
  obtain rfl := List.append_cancel_left (hes.symm.trans hes')
  exact ⟨es, hes, hP, hP'⟩

theorem Does.bind (h : m.Does P) (hf : ∀ a, (f a).Does (Q a)) : (m >>= f).Does (Then P Q) := by
  intro s
  obtain ⟨es, hes, hP⟩ := h s
  rw [run_bind]
  cases hm : m.run s with
  | mk r t =>
    rw [hm] at hes hP
    cases r with
    | error e => exact ⟨es, hes, .inl ⟨e, rfl, hP⟩⟩
    | ok a =>
      obtain ⟨es', hes', hQ⟩ := hf a t
      refine ⟨es ++ es', ?_, .inr ⟨a, t, es, es', rfl, hP, hQ⟩⟩
      rw [hes', hes, List.append_assoc]

theorem Does.pure (a : α) : (pure a : Run α).Does fun s r es t => r = .ok a ∧ es = [] ∧ t = s :=
  fun _ => ⟨[], (List.append_nil _).symm, rfl, rfl, rfl⟩

theorem Does.throw (e : Fault) :
    (throw e : Run α).Does fun s r es t => r = .error e ∧ es = [] ∧ t = s :=
  fun _ => ⟨[], (List.append_nil _).symm, rfl, rfl, rfl⟩

theorem Does.ofExcept (r : Except Fault α) :
    (ofExcept r).Does fun s r' es t => r' = r ∧ es = [] ∧ t = s :=
  fun _ => ⟨[], (List.append_nil _).symm, rfl, rfl, rfl⟩

theorem Does.get : (get : Run Session).Does fun s r es t => r = .ok s ∧ es = [] ∧ t = s :=
  fun _ => ⟨[], (List.append_nil _).symm, rfl, rfl, rfl⟩

/-- A change of the session that leaves what happened asks for nothing. -/
theorem Does.modify {change : Session → Session}
    (h : ∀ s, (change s).happenings = s.happenings) :
    (modify change : Run PUnit).Does fun s r es t => r = .ok ⟨⟩ ∧ es = [] ∧ t = change s :=
  fun s => ⟨[], by rw [run_modify, h, List.append_nil], rfl, rfl, rfl⟩

theorem Does.attempt (h : m.Does P) :
    m.attempt.Does fun s r es t => ∃ r', r = .ok r' ∧ P s r' es t := by
  intro s
  obtain ⟨es, hes, hP⟩ := h s
  exact ⟨es, hes, _, rfl, hP⟩

theorem Does.ask (e : Database.Event) :
    (Run.ask e).Does fun s r es t =>
      r = .ok () ∧ es = [e] ∧ t = { s with happenings := s.happenings ++ [.asked e] } := by
  intro s
  refine ⟨[e], ?_, rfl, rfl, rfl⟩
  exact Happening.events_append s.happenings [.asked e]

/-- Behind a run that never fails the next one is done, with whatever value it gives. -/
theorem Does.bind_ok {R : α → Session → List Database.Event → Session → Prop}
    (h : m.Does fun s r es t => ∃ a, r = .ok a ∧ R a s es t) (hf : ∀ a, (f a).Does (Q a)) :
    (m >>= f).Does fun s r es t =>
      ∃ a u es₁ es₂, es = es₁ ++ es₂ ∧ R a s es₁ u ∧ Q a u r es₂ t := by
  refine (Does.bind h hf).mono ?_
  rintro s r es t (⟨e, -, _, herror, -⟩ | ⟨a, u, es₁, es₂, rfl, ⟨_, ha, hR⟩, hQ⟩)
  · cases herror
  · obtain rfl := Except.ok.inj ha
    exact ⟨a, u, es₁, es₂, rfl, hR, hQ⟩

/-- Behind a run that ends with one value the next one is done with it. -/
theorem Does.bind_eq {a : α} {R : Session → List Database.Event → Session → Prop}
    {T : Session → Except Fault β → List Database.Event → Session → Prop}
    (h : m.Does fun s r es t => r = .ok a ∧ R s es t) (hf : (f a).Does T) :
    (m >>= f).Does fun s r es t => ∃ u es₁ es₂, es = es₁ ++ es₂ ∧ R s es₁ u ∧ T u r es₂ t := by
  intro s
  obtain ⟨es, hes, hr, hR⟩ := h s
  obtain ⟨es', hes', hT⟩ := hf (m.run s).2
  have hrun : (m >>= f).run s = (f a).run (m.run s).2 := by
    rw [run_bind, ← Prod.eta (m.run s), hr]
  rw [hrun]
  exact ⟨es ++ es', by rw [hes', hes, List.append_assoc], _, es, es', rfl, hR, hT⟩

/-- A run that looks at its session first. -/
theorem Does.get_bind {f : Session → Run β}
    {R : Session → Session → Except Fault β → List Database.Event → Session → Prop}
    (hf : ∀ s, (f s).Does (R s)) :
    (MonadState.get >>= f : Run β).Does fun s r es t => R s s r es t :=
  fun s => hf s s

/-- A run in a context is the run itself, in a session with one context more. -/
theorem run_within (change : Log.Context → Log.Context) (m : Run α) (s : Session) :
    (within change m).run s =
      let t := m.run { s with contexts := change (Log.innermost s.contexts) :: s.contexts }
      (t.1, { t.2 with contexts := t.2.contexts.tail }) := rfl

theorem Does.within (change : Log.Context → Log.Context) (h : m.Does P) :
    (within change m).Does fun s r es t =>
      ∃ s' t', s'.world = s.world ∧ t'.world = t.world ∧ P s' r es t' := by
  intro s
  let inner : Session := { s with contexts := change (Log.innermost s.contexts) :: s.contexts }
  obtain ⟨es, hes, hP⟩ := h inner
  exact ⟨es, hes, inner, (m.run inner).2, rfl, rfl, hP⟩

end Does

/-! ## Answers -/

/-- A run that answers ends in one way wherever it starts, asks for nothing, and
leaves the session as it was, but for its log. -/
def Answers {α : Type} (m : Run α) (r : Except Fault α) : Prop :=
  m.Does fun s r' es t => r' = r ∧ es = [] ∧ t.world = s.world

/-- A run that does nothing but log. -/
abbrev Silent (m : Run Unit) : Prop := m.Answers (.ok ())

section Answers

variable {α β : Type} {m : Run α} {f : α → Run β} {r : Except Fault α}

theorem Answers.outcome (h : m.Answers r) (s : Session) : (m.run s).1 = r := by
  obtain ⟨_, _, hr, _⟩ := h s
  exact hr

theorem Answers.pure (a : α) : (pure a : Run α).Answers (.ok a) :=
  (Does.pure a).mono fun _ _ _ _ ⟨hr, hes, ht⟩ => ⟨hr, hes, by rw [ht]⟩

theorem Answers.throw (e : Fault) : (throw e : Run α).Answers (.error e) :=
  (Does.throw e).mono fun _ _ _ _ ⟨hr, hes, ht⟩ => ⟨hr, hes, by rw [ht]⟩

theorem Answers.ofExcept (r : Except Fault α) : (ofExcept r).Answers r :=
  (Does.ofExcept r).mono fun _ _ _ _ ⟨hr, hes, ht⟩ => ⟨hr, hes, by rw [ht]⟩

/-- A computation that fails ends a run that begins with it. -/
theorem fail_answers (e : Fault) (f : α → Run β) : (ofExcept (.error e) >>= f).Answers (.error e) :=
  fun _ => ⟨[], (List.append_nil _).symm, rfl, rfl, rfl⟩

theorem Answers.bind {q : α → Except Fault β} (h : m.Answers r) (hf : ∀ a, (f a).Answers (q a)) :
    (m >>= f).Answers (r.bind q) := by
  refine (Does.bind h hf).mono ?_
  rintro s r' es t (⟨e, rfl, rfl, hes, ht⟩ | ⟨a, u, es₁, es₂, rfl, ⟨rfl, rfl, hu⟩, hr, rfl, ht⟩)
  · exact ⟨rfl, hes, ht⟩
  · exact ⟨hr, rfl, ht.trans hu⟩

theorem Answers.within (change : Log.Context → Log.Context) (h : m.Answers r) :
    (within change m).Answers r := by
  refine (Does.within change h).mono ?_
  rintro s r' es t ⟨s', t', hs, ht, hr, hes, hw⟩
  exact ⟨hr, hes, by rw [← ht, hw, hs]⟩

theorem Answers.world (h : m.Answers r) (s : Session) : (m.run s).2.world = s.world := by
  obtain ⟨_, _, _, _, hw⟩ := h s
  exact hw

theorem Answers.attempt (h : m.Answers r) : m.attempt.Answers (.ok r) := by
  refine (Does.attempt h).mono ?_
  rintro s r' es t ⟨r'', rfl, rfl, rfl, ht⟩
  exact ⟨rfl, rfl, ht⟩

/-- After an answer a run goes on with it. -/
theorem Answers.run_bind {a : α} (h : m.Answers (.ok a)) (f : α → Run β) (s : Session) :
    (m >>= f).run s = (f a).run (m.run s).2 := by
  rw [Run.run_bind, ← Prod.eta (m.run s), h.outcome s]

/-- What a run does after an answer is what it does with it, in a session with
another log. -/
theorem Does.after {a : α}
    {P : Session → Except Fault β → List Database.Event → Session → Prop}
    (h : m.Answers (.ok a)) (hf : (f a).Does P) :
    (m >>= f).Does fun s r es t => ∃ s', s'.world = s.world ∧ P s' r es t := by
  intro s
  obtain ⟨es, hes, -, rfl, -⟩ := h s
  obtain ⟨es', hes', hP⟩ := hf (m.run s).2
  rw [h.run_bind f s]
  exact ⟨es', by rw [hes', hes, List.append_nil], (m.run s).2, h.world s, hP⟩

theorem Answers.after {a : α} {q : Except Fault β} (h : m.Answers (.ok a))
    (hf : (f a).Answers q) : (m >>= f).Answers q := by
  refine (Does.after h hf).mono ?_
  rintro s r es t ⟨s', hs, hr, hes, ht⟩
  exact ⟨hr, hes, ht.trans hs⟩

end Answers

/-! ## Results -/

/-- Whatever a run returns is such a value. -/
def Returns {α : Type} (m : Run α) (P : α → Prop) : Prop := ∀ s a, (m.run s).1 = .ok a → P a

section Returns

variable {α β : Type} {m : Run α} {f : α → Run β} {P : α → Prop} {Q : β → Prop}

theorem Returns.pure {a : α} (h : P a) : (pure a : Run α).Returns P := by
  intro s a' ha
  obtain rfl := Except.ok.inj ha
  exact h

/-- What a run returns that goes on with a value is returned from some such value. -/
theorem Returns.bind (h : m.Returns P) (hf : ∀ a, P a → (f a).Returns Q) :
    (m >>= f).Returns Q := by
  intro s b hb
  rw [run_bind] at hb
  cases hm : m.run s with
  | mk r t =>
    rw [hm] at hb
    cases r with
    | error e => cases hb
    | ok a => exact hf a (h s a (by rw [hm])) t b hb

/-- It may not matter from which. -/
theorem Returns.after (hf : ∀ a, (f a).Returns Q) : (m >>= f).Returns Q :=
  Returns.bind (P := fun _ => True) (fun _ _ _ => trivial) fun a _ => hf a

theorem Returns.within (change : Log.Context → Log.Context) (h : m.Returns P) :
    (within change m).Returns P :=
  fun s => h { s with contexts := change (Log.innermost s.contexts) :: s.contexts }

theorem Answers.returns {a : α} (h : m.Answers (.ok a)) : m.Returns fun b => b = a := by
  intro s b hb
  rw [h.outcome s] at hb
  exact (Except.ok.inj hb).symm

end Returns

/-! ## Logging -/

theorem Silent.logged (r : Log.Record) : Silent (happen (.logged r)) := by
  intro s
  refine ⟨[], ?_, rfl, rfl, rfl⟩
  exact Happening.events_append s.happenings [.logged r]

theorem Silent.logWith (w : Writer) (level : Log.Level) (message : Value) (args : List Value)
    (given : List (Value × Value)) : Silent (w.logWith level message args given) := by
  by_cases h : 0 < level
  · intro s
    simp only [Writer.logWith, h, if_true]
    exact Silent.logged _ s
  · simpa only [Writer.logWith, h, if_false] using Answers.pure ()

theorem Silent.debug (w : Writer) (text : String) : Silent (w.debug text) :=
  Silent.logWith _ _ _ _ _

theorem Silent.info (w : Writer) (text : String) : Silent (w.info text) :=
  Silent.logWith _ _ _ _ _

theorem Silent.warning (w : Writer) (text : String) : Silent (w.warning text) :=
  Silent.logWith _ _ _ _ _

theorem Silent.error (w : Writer) (text : String) : Silent (w.error text) :=
  Silent.logWith _ _ _ _ _

end Run

end Relvar
