/-
Values that are text. Text of any class spells its characters and is equal, as a key, to the
text with the same characters and to no other. So a mapping keeps every entry of a list whose
keys are different texts, in their order. The keys of a mapping always differ.
-/
import Relvar.Value.Dict
import Relvar.Value.Spelled
import Mathlib.Data.List.Pairwise

set_option autoImplicit false

namespace Relvar

/-! ## Text -/

namespace Value

variable {v w : Value} {s t : String}

/-- What holds of a string, of a field type and of a member whose value is a string holds of
every text. -/
theorem asText?_cases {P : Value → String → Prop} (str : ∀ s, P (.str s) s)
    (semantic : ∀ t : FieldType, P (.semantic t) t.name)
    (member : ∀ e s, P (.member e .text (.str s)) s) (h : v.asText? = some s) : P v s := by
  cases v with
  | str s' => exact Option.some.inj h ▸ str s'
  | semantic t => exact Option.some.inj h ▸ semantic t
  | member e base w =>
    cases base with
    | text =>
      cases w with
      | str s' => exact Option.some.inj h ▸ member e s'
      | _ => cases h
    | _ => cases h
  | _ => cases h

/-- Text spells itself. -/
theorem spelledText_of_asText? (h : v.asText? = some s) : v.spelledText = .ok s :=
  asText?_cases (P := fun v s => v.spelledText = .ok s) (fun _ => rfl) (fun _ => rfl)
    (fun _ _ => rfl) h

/-- Text counts as true unless it is empty. -/
theorem isTruthy_of_asText? (h : v.asText? = some s) : v.isTruthy = (s != "") :=
  asText?_cases (P := fun v s => v.isTruthy = (s != "")) (fun _ => rfl)
    (fun t => by cases t <;> decide) (fun _ _ => rfl) h

/-- Text is a name unless it is empty. -/
theorem checkName_text (place : List Place) (h : v.asText? = some s) :
    v.checkName place = if s = "" then .error [⟨.tooShort, place⟩] else .ok s := by
  rw [checkName, spelledText_of_asText? h]

theorem checkName_str (place : List Place) (s : String) :
    (Value.str s).checkName place = if s = "" then .error [⟨.tooShort, place⟩] else .ok s := rfl

theorem checkName_ne {place : List Place} {n : String} (h : v.checkName place = .ok n) :
    n ≠ "" := by
  unfold checkName at h
  split at h
  · cases h
  · split at h
    · cases h
    · next hne => exact Except.ok.inj h ▸ hne

/-- Text spells itself. -/
theorem eq_of_checkName_str {place : List Place} {n m : String}
    (h : (Value.str n).checkName place = .ok m) : n = m := by
  rw [checkName_str] at h
  split at h
  · cases h
  · exact Except.ok.inj h

/-- Text that is not empty is a name. -/
theorem checkName_of_asText? {place : List Place} (htext : v.asText?.isSome = true)
    (htruthy : v.isTruthy = true) : ∃ n, v.checkName place = .ok n := by
  obtain ⟨n, hn⟩ := Option.isSome_iff_exists.mp htext
  rw [isTruthy_of_asText? hn, bne_iff_ne] at htruthy
  exact ⟨n, by rw [checkName_text place hn, if_neg htruthy]⟩

/-- What is accepted as a name is what the value spells. -/
theorem spelledText_of_checkName {place : List Place} {n : String}
    (h : v.checkName place = .ok n) : v.spelledText = .ok n := by
  unfold checkName at h
  split at h
  · cases h
  · next s hs =>
    split at h
    · cases h
    · rw [hs, Except.ok.inj h]

theorem sameKey_eq_sameAtom (h : v.asText? = some s) : v.sameKey w = v.sameAtom w :=
  asText?_cases (P := fun v _ => v.sameKey w = v.sameAtom w) (fun _ => by rw [sameKey] <;> simp)
    (fun _ => by rw [sameKey] <;> simp) (fun _ _ => by rw [sameKey] <;> simp) h

theorem asNumber?_of_asText? (h : v.asText? = some s) : v.asNumber? = none :=
  asText?_cases (P := fun v _ => v.asNumber? = none) (fun _ => rfl) (fun _ => rfl)
    (fun _ _ => rfl) h

/-- Texts are one key exactly if they have the same characters. -/
theorem sameKey_text (hv : v.asText? = some s) (hw : w.asText? = some t) :
    v.sameKey w = (s == t) := by
  rw [sameKey_eq_sameAtom hv]
  simp only [sameAtom, asNumber?_of_asText? hv, asNumber?_of_asText? hw, hv, hw]

/-- What equals a string is the text of its characters. -/
theorem asText?_of_sameKey_str (h : v.sameKey (.str s) = true) : v.asText? = some s := by
  have hatom : v.sameAtom (.str s) = true := by
    rw [← h]
    symm
    rw [sameKey] <;> simp
  have hnumber : (Value.str s).asNumber? = none := rfl
  have htext : (Value.str s).asText? = some s := rfl
  -- a string is no number, so the values are compared as texts
  unfold sameAtom at hatom
  rw [hnumber, htext] at hatom
  split at hatom
  · next heq => cases heq
  · split at hatom
    · next t s' ht heq => rw [ht, eq_of_beq hatom, heq]
    · next heq => cases heq
    · cases hatom
  · cases hatom

/-- Text equals the string of its characters. -/
theorem sameKey_str (h : v.asText? = some s) : (Value.str s).sameKey v = true := by
  rw [sameKey_text rfl h, beq_self_eq_true]

end Value

/-! ## Entries -/

namespace Dict

/-- An entry whose key equals none that is there comes last. -/
theorem insert_fresh {es : List (Value × Value)} {k : Value} (v : Value)
    (h : ∀ e ∈ es, e.1.sameKey k = false) : insert es k v = es ++ [(k, v)] := by
  have hfree : contains es k = false := by
    rw [contains, List.any_eq_false]
    intro e he
    simp [h e he]
  rw [insert, hfree]
  rfl

/-- Entries whose keys all differ come behind those that are there. -/
theorem merge_fresh {es fs : List (Value × Value)}
    (h : (es ++ fs).Pairwise fun e f => e.1.sameKey f.1 = false) : merge es fs = es ++ fs := by
  induction fs generalizing es with
  | nil => simp [merge]
  | cons f fs ih =>
    have hinsert : insert es f.1 f.2 = es ++ [f] :=
      insert_fresh f.2 fun e he => (List.pairwise_append.mp h).2.2 e he f List.mem_cons_self
    have hsplit : es ++ f :: fs = (es ++ [f]) ++ fs := by simp
    rw [hsplit] at h ⊢
    rw [merge, List.foldl_cons, hinsert]
    exact ih h

/-- Writing a key that is there keeps the keys, and another key comes last. -/
theorem map_fst_insert (es : List (Value × Value)) (k v : Value) :
    (insert es k v).map Prod.fst =
      if contains es k then es.map Prod.fst else es.map Prod.fst ++ [k] := by
  rw [insert]
  split
  · rw [List.map_map]
    refine List.map_congr_left fun e _ => ?_
    by_cases hsame : e.1.sameKey k = true <;> simp [hsame]
  · rw [List.map_append, List.map_singleton]

/-- Keys that differ still differ when one more is written. -/
theorem pairwise_insert {es : List (Value × Value)} (k v : Value)
    (h : (es.map Prod.fst).Pairwise fun a b => a.sameKey b = false) :
    ((insert es k v).map Prod.fst).Pairwise fun a b => a.sameKey b = false := by
  rw [map_fst_insert]
  by_cases hthere : contains es k = true
  · rwa [if_pos hthere]
  · have hnone : ∀ e ∈ es, e.1.sameKey k = false := by
      rw [Bool.not_eq_true, contains, List.any_eq_false] at hthere
      simpa using hthere
    rw [if_neg hthere, List.pairwise_append]
    refine ⟨h, List.pairwise_singleton _ _, fun a ha b hb => ?_⟩
    obtain ⟨e, he, rfl⟩ := List.mem_map.mp ha
    rw [List.mem_singleton.mp hb]
    exact hnone e he

/-- The keys of a mapping differ, in whatever order its entries are written. -/
theorem pairwise_ofList (es : List (Value × Value)) :
    ((ofList es).map Prod.fst).Pairwise fun a b => a.sameKey b = false := by
  have hmerge : ∀ fs es' : List (Value × Value),
      (es'.map Prod.fst).Pairwise (fun a b => a.sameKey b = false) →
        ((merge es' fs).map Prod.fst).Pairwise fun a b => a.sameKey b = false := by
    intro fs
    induction fs with
    | nil => exact fun es' h => h
    | cons f fs ih => exact fun es' h => ih _ (pairwise_insert f.1 f.2 h)
  exact hmerge es [] List.Pairwise.nil

end Dict

end Relvar
