/-
Outcomes of computations that may be refused, taken apart: a computation in steps
succeeds if each of its steps does, and is refused by the first step that is. The
outcomes of several computations stand in a list next to what they are of.
-/
import Mathlib.Data.List.Forall2

set_option autoImplicit false

namespace Relvar.Except

variable {ε ε' α β : Type}

theorem bind_eq_ok {r : Except ε α} {f : α → Except ε β} {b : β} :
    (r >>= f) = .ok b ↔ ∃ a, r = .ok a ∧ f a = .ok b := by
  cases r <;> simp [bind, Except.bind]

theorem bind_eq_error {r : Except ε α} {f : α → Except ε β} {e : ε} :
    (r >>= f) = .error e ↔ r = .error e ∨ ∃ a, r = .ok a ∧ f a = .error e := by
  cases r <;> simp [bind, Except.bind]

theorem mapError_eq_ok {r : Except ε α} {g : ε → ε'} {a : α} :
    r.mapError g = .ok a ↔ r = .ok a := by
  cases r <;> simp [Except.mapError]

theorem mapError_eq_error {r : Except ε α} {g : ε → ε'} {e : ε'} :
    r.mapError g = .error e ↔ ∃ e', r = .error e' ∧ g e' = e := by
  cases r <;> simp [Except.mapError]

theorem map_eq_ok {r : Except ε α} {g : α → β} {b : β} :
    r.map g = .ok b ↔ ∃ a, r = .ok a ∧ g a = b := by
  cases r <;> simp [Except.map]

theorem map_eq_error {r : Except ε α} {g : α → β} {e : ε} :
    r.map g = .error e ↔ r = .error e := by
  cases r <;> simp [Except.map]

/-- One more value in front of others has to be found first. -/
theorem cons_eq_ok {r : Except ε α} {rs : Except ε (List α)} {l : List α} :
    (do let a ← r; let as ← rs; return a :: as) = .ok l ↔
      ∃ a as, r = .ok a ∧ rs = .ok as ∧ l = a :: as := by
  cases r <;> cases rs <;> simp [bind, Except.bind, pure, Except.pure, eq_comm]

theorem cons_eq_error {r : Except ε α} {rs : Except ε (List α)} {e : ε} :
    (do let a ← r; let as ← rs; return a :: as) = .error e ↔
      r = .error e ∨ (∃ a, r = .ok a) ∧ rs = .error e := by
  cases r <;> cases rs <;> simp [bind, Except.bind, pure, Except.pure]

/-- What is computed from a list element by element, until one of them is refused. -/
theorem eq_mapM (g : List α → Except ε (List β)) {f : α → Except ε β} (hnil : g [] = .ok [])
    (hcons : ∀ x xs, g (x :: xs) = do let y ← f x; let ys ← g xs; return y :: ys)
    (xs : List α) : g xs = xs.mapM f := by
  induction xs with
  | nil => exact hnil
  | cons x xs ih => rw [hcons, ih, List.mapM_cons]

/-- Several elements are computed from if each of them is. -/
theorem mapM_eq_ok {f : α → Except ε β} {xs : List α} {ys : List β} :
    xs.mapM f = .ok ys ↔ List.Forall₂ (fun x y => f x = .ok y) xs ys := by
  induction xs generalizing ys with
  | nil => simp [pure, Except.pure, eq_comm]
  | cons x xs ih =>
    rw [List.mapM_cons, cons_eq_ok, List.forall₂_cons_left_iff]
    simp only [ih]

/-- Otherwise there is a first element that is refused. -/
theorem mapM_eq_error {f : α → Except ε β} {xs : List α} {e : ε} :
    xs.mapM f = .error e ↔
      ∃ pre x post, xs = pre ++ x :: post ∧ (∀ y ∈ pre, ∃ b, f y = .ok b) ∧ f x = .error e := by
  constructor
  · intro h
    induction xs with
    | nil => cases h
    | cons x xs ih =>
      rw [List.mapM_cons] at h
      rcases cons_eq_error.mp h with hx | ⟨hx, h⟩
      · exact ⟨[], x, xs, rfl, by simp, hx⟩
      · obtain ⟨pre, y, post, rfl, hpre, hy⟩ := ih h
        exact ⟨x :: pre, y, post, rfl, List.forall_mem_cons.mpr ⟨hx, hpre⟩, hy⟩
  · rintro ⟨pre, x, post, rfl, hpre, hx⟩
    -- the elements in front are passed, so the element is reached
    induction pre with
    | nil =>
      rw [List.nil_append, List.mapM_cons]
      exact cons_eq_error.mpr (.inl hx)
    | cons y pre ih =>
      obtain ⟨hy, hpre⟩ := List.forall_mem_cons.mp hpre
      rw [List.cons_append, List.mapM_cons]
      exact cons_eq_error.mpr (.inr ⟨hy, ih hpre⟩)

/-- Elements next to elements that are computed from are computed from too, to what stands next
to the values, if each of them is. -/
theorem mapM_forall₂ {α' β' : Type} {R : α → α' → Prop} {S : β → β' → Prop}
    {f : α → Except ε β} {f' : α' → Except ε β'} {xs : List α} {xs' : List α'} {ys : List β}
    (h : List.Forall₂ R xs xs')
    (hf : ∀ {x x' y}, R x x' → f x = .ok y → ∃ y', f' x' = .ok y' ∧ S y y')
    (hys : xs.mapM f = .ok ys) : ∃ ys', xs'.mapM f' = .ok ys' ∧ List.Forall₂ S ys ys' := by
  induction h generalizing ys with
  | nil =>
    obtain rfl := Except.ok.inj hys
    exact ⟨[], rfl, .nil⟩
  | cons hx _ ih =>
    rw [List.mapM_cons] at hys
    obtain ⟨y, rest, hy, hrest, rfl⟩ := cons_eq_ok.mp hys
    obtain ⟨y', hy', hS⟩ := hf hx hy
    obtain ⟨rest', hrest', hall⟩ := ih hrest
    refine ⟨y' :: rest', ?_, .cons hS hall⟩
    rw [List.mapM_cons]
    exact cons_eq_ok.mpr ⟨y', rest', hy', hrest', rfl⟩

/-- A fold that fails does so at one element, behind elements that it passes. -/
theorem foldlM_eq_error {f : β → α → Except ε β} {xs : List α} {b : β} {e : ε} :
    xs.foldlM f b = .error e ↔
      ∃ pre x post b', xs = pre ++ x :: post ∧ pre.foldlM f b = .ok b' ∧ f b' x = .error e := by
  constructor
  · intro h
    induction xs generalizing b with
    | nil => cases h
    | cons x xs ih =>
      rw [List.foldlM_cons] at h
      rcases bind_eq_error.mp h with hx | ⟨next, hx, h⟩
      · exact ⟨[], x, xs, b, rfl, rfl, hx⟩
      · obtain ⟨pre, y, post, b', rfl, hpre, hy⟩ := ih h
        exact ⟨x :: pre, y, post, b', rfl, bind_eq_ok.mpr ⟨next, hx, hpre⟩, hy⟩
  · rintro ⟨pre, x, post, b', rfl, hpre, hx⟩
    rw [List.foldlM_append]
    refine bind_eq_error.mpr (.inr ⟨b', hpre, ?_⟩)
    rw [List.foldlM_cons]
    exact bind_eq_error.mpr (.inl hx)

/-- An outcome with a value is that value. -/
theorem eq_ok_of_toOption {r : Except ε α} {a : α} (h : r.toOption = some a) : r = .ok a := by
  cases r with
  | error e => simp [Except.toOption] at h
  | ok b => simpa [Except.toOption] using h

end Relvar.Except

namespace Relvar

/-- What stands next to a list that is split at an element is split there too. -/
theorem forall₂_append_cons {α β : Type} {R : α → β → Prop} {pre post : List α} {x : α}
    {ys : List β} (h : List.Forall₂ R (pre ++ x :: post) ys) :
    ∃ ys₁ y ys₂, ys = ys₁ ++ y :: ys₂ ∧ List.Forall₂ R pre ys₁ ∧ R x y := by
  induction pre generalizing ys with
  | nil =>
    obtain ⟨y, ys₂, hy, -, rfl⟩ := List.forall₂_cons_left_iff.mp h
    exact ⟨[], y, ys₂, rfl, .nil, hy⟩
  | cons z pre ih =>
    obtain ⟨w, ys', hw, hrest, rfl⟩ := List.forall₂_cons_left_iff.mp h
    obtain ⟨ys₁, y, ys₂, rfl, hpre, hy⟩ := ih hrest
    exact ⟨w :: ys₁, y, ys₂, rfl, .cons hw hpre, hy⟩

theorem forall₂_mem_left {α β : Type} {R : α → β → Prop} {xs : List α} {ys : List β}
    (h : List.Forall₂ R xs ys) {x : α} (hx : x ∈ xs) : ∃ y ∈ ys, R x y := by
  obtain ⟨pre, post, rfl⟩ := List.append_of_mem hx
  obtain ⟨ys₁, y, ys₂, rfl, -, hy⟩ := forall₂_append_cons h
  exact ⟨y, by simp, hy⟩

theorem forall₂_mem_right {α β : Type} {R : α → β → Prop} {xs : List α} {ys : List β}
    (h : List.Forall₂ R xs ys) {y : β} (hy : y ∈ ys) : ∃ x ∈ xs, R x y :=
  forall₂_mem_left h.flip hy

/-- What stands next to what stands next to the elements of a list. -/
theorem forall₂_trans {α β γ : Type} {R : α → β → Prop} {S : β → γ → Prop} {xs : List α}
    {ys : List β} {zs : List γ} (h : List.Forall₂ R xs ys) (h' : List.Forall₂ S ys zs) :
    List.Forall₂ (fun x z => ∃ y, R x y ∧ S y z) xs zs := by
  induction h generalizing zs with
  | nil =>
    obtain rfl := List.forall₂_nil_left_iff.mp h'
    exact .nil
  | @cons x y _ _ hxy _ ih =>
    obtain ⟨z, zs, hyz, hrest, rfl⟩ := List.forall₂_cons_left_iff.mp h'
    exact .cons ⟨y, hxy, hyz⟩ (ih hrest)

/-- Something stands next to each element of a list. -/
theorem exists_forall₂_iff {α β : Type} {R : α → β → Prop} {xs : List α} :
    (∃ ys, List.Forall₂ R xs ys) ↔ ∀ x ∈ xs, ∃ y, R x y := by
  induction xs with
  | nil => simp
  | cons x xs ih =>
    rw [List.forall_mem_cons, ← ih]
    constructor
    · rintro ⟨ys, h⟩
      obtain ⟨y, ys, hy, hys, rfl⟩ := List.forall₂_cons_left_iff.mp h
      exact ⟨⟨y, hy⟩, ys, hys⟩
    · rintro ⟨⟨y, hy⟩, ys, hys⟩
      exact ⟨y :: ys, .cons hy hys⟩

/-- A list has one element that is the first to fail, where what is asked of an element
may depend on the elements in front of it. -/
theorem first_unique {α : Type} {P : List α → α → Prop} {pre pre' post post' : List α}
    {x x' : α} (h : pre ++ x :: post = pre' ++ x' :: post')
    (hpre : ∀ l y r, pre = l ++ y :: r → P l y) (hx : ¬ P pre x)
    (hpre' : ∀ l y r, pre' = l ++ y :: r → P l y) (hx' : ¬ P pre' x') :
    pre = pre' ∧ x = x' := by
  -- if one front were longer, it would hold the element that fails
  rcases List.append_eq_append_iff.mp h with ⟨a, rfl, ha⟩ | ⟨a, rfl, ha⟩
  · cases a with
    | nil => exact ⟨(List.append_nil _).symm, (List.cons.inj ha).1⟩
    | cons y a =>
      obtain ⟨rfl, -⟩ := List.cons.inj ha
      exact absurd (hpre' _ _ _ rfl) hx
  · cases a with
    | nil => exact ⟨List.append_nil _, (List.cons.inj ha).1.symm⟩
    | cons y a =>
      obtain ⟨rfl, -⟩ := List.cons.inj ha
      exact absurd (hpre _ _ _ rfl) hx'

end Relvar
