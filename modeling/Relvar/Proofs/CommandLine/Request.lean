/-
Options among arguments show in the request. Tokens are taken from the left, and no token takes
anything back: a dry run stays asked for, some path stays given, and what is not recognized
stays so until the end, where it is refused.
-/
import Relvar.CommandLine.Request
import Relvar.Proofs.Outcome

set_option autoImplicit false

namespace Relvar.CommandLine

/-- An option is given among arguments if one of them stands for it, by itself. -/
def Opt.IsGiven (o : Opt) (arguments : List String) : Prop :=
  ∃ a ∈ arguments, ∃ isShort attached, Token.ofArgument a = .ok (.known o isShort attached)

namespace Request

/-! ## What is kept -/

/-- A request that keeps what another one asks for. -/
structure Extends (r r' : Request) : Prop where
  dryRun : r.isDryRun = true → r'.isDryRun = true
  emit : r.emit.isSome = true → r'.emit.isSome = true
  unrecognized : r'.unrecognized = [] → r.unrecognized = []

variable {r r' r'' : Request}

theorem extends_refl (r : Request) : r.Extends r := ⟨id, id, id⟩

theorem Extends.trans (h : r.Extends r') (h' : r'.Extends r'') : r.Extends r'' where
  dryRun := h'.dryRun ∘ h.dryRun
  emit := h'.emit ∘ h.emit
  unrecognized := h.unrecognized ∘ h'.unrecognized

theorem extends_leave (r : Request) (a : String) : r.Extends (r.leave a) where
  dryRun := id
  emit := id
  unrecognized := fun h => by simp [leave] at h

theorem extends_leaveAll (r : Request) (as : List String) : r.Extends (as.foldl leave r) := by
  induction as generalizing r with
  | nil => exact extends_refl r
  | cons a as ih => exact (extends_leave r a).trans (ih _)

theorem extends_withValue (r : Request) (o : Opt) (v : String) : r.Extends (r.withValue o v) := by
  cases o with
  | emit => exact ⟨id, fun _ => rfl, id⟩
  | _ => exact ⟨id, id, id⟩

theorem extends_switch {o : Opt} (h : r.switch o = .ok r') : r.Extends r' := by
  cases o with
  | help => cases h
  | version => cases h
  | dryRun =>
    obtain rfl := Except.ok.inj h
    exact ⟨fun _ => rfl, id, id⟩
  | _ =>
    obtain rfl := Except.ok.inj h
    exact ⟨id, id, id⟩

theorem extends_switchAll {os : List Opt} (h : r.switchAll os = .ok r') : r.Extends r' := by
  induction os generalizing r with
  | nil =>
    obtain rfl := Except.ok.inj h
    exact extends_refl r
  | cons o os ih =>
    obtain ⟨next, hnext, hrest⟩ := Except.bind_eq_ok.mp h
    exact (extends_switch hnext).trans (ih hrest)

/-- Of switches that stand together the first is the one that they stand behind. -/
theorem together_head {o : Opt} {s : List Char} {os : List Opt} {rest : Option String}
    (h : together o s = .ok (os, rest)) : ∃ others, os = o :: others := by
  cases s with
  | nil =>
    obtain ⟨rfl, -⟩ := Prod.mk.inj (Except.ok.inj h)
    exact ⟨[], rfl⟩
  | cons c s =>
    rw [together] at h
    split at h
    · cases h
    · split at h
      · obtain ⟨rfl, -⟩ := Prod.mk.inj (Except.ok.inj h)
        exact ⟨[], rfl⟩
      · split at h
        · cases h
        · obtain ⟨⟨others, rest'⟩, -, h⟩ := Except.bind_eq_ok.mp h
          obtain ⟨rfl, -⟩ := Prod.mk.inj (Except.ok.inj h)
          exact ⟨others, rfl⟩

/-- A switch that is taken is thrown, perhaps with others. -/
theorem takeSwitch_eq_ok {o : Opt} {isShort : Bool} {attached : Attached}
    (h : r.takeSwitch o isShort attached = .ok r') :
    ∃ (left : List String) (others : List Opt),
      (left.foldl leave r).switchAll (o :: others) = .ok r' := by
  cases attached with
  -- a switch that stands alone is the list of itself, and leaves nothing over
  | none =>
    have hone : (List.foldl leave r []).switchAll [o] = .ok r' := by
      rw [takeSwitch] at h
      rw [List.foldl_nil, switchAll, h]
      rfl
    exact ⟨[], [], hone⟩
  | afterEquals s => cases h
  | atOnce s =>
    rw [takeSwitch] at h
    split at h
    · obtain ⟨⟨os, rest⟩, htogether, h⟩ := Except.bind_eq_ok.mp h
      obtain ⟨others, rfl⟩ := together_head htogether
      exact ⟨rest.toList, others, h⟩
    · cases h

/-! ## What tokens show -/

/-- What a token leaves to be seen in a request: a dry run, a path, or that something is not
recognized. -/
def Shows (t : Token) (r : Request) : Prop :=
  match t with
  | .known .dryRun _ _ => r.isDryRun = true
  | .known .emit _ _ => r.emit.isSome = true
  | .dashes => r.unrecognized ≠ []
  | _ => True

theorem Shows.extend {t : Token} (h : Shows t r) (hr : r.Extends r') : Shows t r' := by
  unfold Shows at h ⊢
  split
  · exact hr.dryRun h
  · exact hr.emit h
  · exact mt hr.unrecognized h
  · trivial

theorem shows_withValue {o : Opt} (ho : o.takesValue = true) (r : Request) (isShort : Bool)
    (attached : Attached) (v : String) :
    Shows (.known o isShort attached) (r.withValue o v) := by
  cases o with
  | emit => exact rfl
  | dryRun => cases ho
  | _ => trivial

theorem shows_takeSwitch {o : Opt} (ho : ¬ o.takesValue = true) {isShort : Bool}
    {attached : Attached} (h : r.takeSwitch o isShort attached = .ok r') :
    Shows (.known o isShort attached) r' := by
  obtain ⟨left, others, hswitch⟩ := takeSwitch_eq_ok h
  obtain ⟨next, hnext, hrest⟩ := Except.bind_eq_ok.mp hswitch
  have hshown : Shows (.known o isShort attached) next := by
    cases o with
    | dryRun =>
      obtain rfl := Except.ok.inj hnext
      rfl
    | emit => exact absurd rfl ho
    | _ => trivial
  exact hshown.extend (extends_switchAll hrest)

/-- A token that shows in the next request shows with those that are taken from there. -/
theorem shows_cons {t : Token} {ts : List Token} (hr : r.Extends r') (ht : Shows t r')
    (h : r'.Extends r'' ∧ ∀ u ∈ ts, Shows u r'') :
    r.Extends r'' ∧ ∀ u ∈ t :: ts, Shows u r'' :=
  ⟨hr.trans h.1, List.forall_mem_cons.mpr ⟨ht.extend h.1, h.2⟩⟩

/-- Tokens that are taken keep what was asked for before, and each of them shows in the
request. The induction is along the way in which tokens are taken, of which an option may take
two. -/
theorem takeAll_shows {ts : List Token} (h : r.takeAll ts = .ok r') :
    r.Extends r' ∧ ∀ t ∈ ts, Shows t r' := by
  fun_induction takeAll r ts with
  | case1 r =>
    obtain rfl := Except.ok.inj h
    exact ⟨extends_refl r, by simp⟩
  | case2 r s ts ih => exact shows_cons (extends_leave r s) trivial (ih h)
  | case3 r ts ih => exact shows_cons (extends_leave r "--") (by simp [Shows, leave]) (ih h)
  | case4 r s ts ih => exact shows_cons (extends_leave r s) trivial (ih h)
  | case5 r o isShort ho s ts ih =>
    exact shows_cons (extends_withValue r o _) (shows_withValue ho r _ _ _) (ih h)
  | case6 r o isShort ho s ts ih =>
    exact shows_cons (extends_withValue r o _) (shows_withValue ho r _ _ _) (ih h)
  | case7 r o isShort ho s ts ih =>
    -- the value stands in a token of its own, which the option takes with it
    obtain ⟨hextends, hshows⟩ := ih h
    exact shows_cons (extends_withValue r o s) (shows_withValue ho r _ _ _)
      ⟨hextends, List.forall_mem_cons.mpr ⟨trivial, hshows⟩⟩
  | case8 => cases h
  | case9 r o isShort attached ts ho next hnext ih =>
    obtain ⟨left, others, hswitch⟩ := takeSwitch_eq_ok hnext
    have hextends := (extends_leaveAll r left).trans (extends_switchAll hswitch)
    exact shows_cons hextends (shows_takeSwitch ho hnext) (ih h)
  | case10 => cases h

end Request

/-! ## Options among arguments -/

/-- The token of an argument is among the tokens, unless two dashes alone are. -/
theorem Token.mem_ofArguments {arguments : List String} {ts : List Token} {a : String} {t : Token}
    (h : ofArguments arguments = .ok ts) (ha : a ∈ arguments) (ht : ofArgument a = .ok t) :
    t ∈ ts ∨ .dashes ∈ ts := by
  induction arguments generalizing ts with
  | nil => cases ha
  | cons b rest ih =>
    rw [ofArguments] at h
    split at h
    -- behind two dashes every argument is a value, so only the dashes are promised
    · obtain rfl := Except.ok.inj h
      exact .inr List.mem_cons_self
    · obtain ⟨u, hu, h⟩ := Except.bind_eq_ok.mp h
      obtain ⟨us, hus, h⟩ := Except.bind_eq_ok.mp h
      obtain rfl := Except.ok.inj h
      rcases List.mem_cons.mp ha with rfl | ha
      · obtain rfl := Except.ok.inj (ht.symm.trans hu)
        exact .inl List.mem_cons_self
      · exact (ih hus ha).imp (List.mem_cons_of_mem u) (List.mem_cons_of_mem u)

/-- An option that is given shows in the request of the arguments. -/
theorem Request.shows_of_isGiven {o : Opt} {arguments : List String} {r : Request}
    (h : ofArguments arguments = .ok r) (hgiven : o.IsGiven arguments) :
    ∃ isShort attached, Shows (.known o isShort attached) r := by
  obtain ⟨a, ha, isShort, attached, ht⟩ := hgiven
  obtain ⟨ts, hts, h⟩ := Except.bind_eq_ok.mp h
  obtain ⟨taken, htaken, h⟩ := Except.bind_eq_ok.mp h
  -- what is completed is what was taken, with nothing that is not recognized
  obtain ⟨rfl, hnone⟩ : taken = r ∧ taken.unrecognized = [] := by
    rw [complete] at h
    split at h
    · cases h
    · split at h
      · next hempty => exact ⟨Except.ok.inj h, List.isEmpty_iff.mp hempty⟩
      · cases h
  have hshows := (takeAll_shows htaken).2
  rcases Token.mem_ofArguments (Except.mapError_eq_ok.mp hts) ha ht with hmem | hdashes
  · exact ⟨isShort, attached, hshows _ hmem⟩
  · exact absurd hnone (hshows _ hdashes)

end Relvar.CommandLine
