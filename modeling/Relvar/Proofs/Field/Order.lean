/-
The order of modifiers. Modifiers under different keys write different parts of a field, so it
does not matter which of them comes first, and whether an entry of a mapping is taken is a
question of that entry alone. So the entries of a mapping make the same field in every order, or
none in any order; only which of several faults is told depends on the order.
-/
import Relvar.Proofs.Field.Modifier
import Mathlib.Data.List.Nodup
import Mathlib.Data.List.Perm.Basic

set_option autoImplicit false

namespace Relvar

namespace Modifier

variable {type : FieldType} {ms ms' : List Modifier}

/-! ## Parts of a field -/

/-- Modifiers under different keys write different parts of a field. -/
theorem apply_comm {m n : Modifier} (h : m.key ≠ n.key) (f : Field) :
    n.apply (m.apply f) = m.apply (n.apply f) := by
  cases m <;> cases n <;> first | rfl | exact absurd rfl h

/-- What modifiers under different keys make of a field does not depend on their order. -/
theorem foldl_apply_perm (hperm : ms.Perm ms') (hkeys : (ms.map key).Nodup) (f : Field) :
    ms.foldl apply f = ms'.foldl apply f := by
  refine hperm.foldl_eq' (fun m hm n hn g => ?_) f
  by_cases hkey : m.key = n.key
  · rw [List.inj_on_of_nodup_map hkeys hm hn hkey]
  · exact apply_comm hkey g

/-! ## Entries -/

/-- Entries that are taken say the same in another order, up to the order. -/
theorem ofEntries_perm {es es' : List (Value × Value)} (hperm : es.Perm es')
    (h : ofEntries type es = .ok ms) :
    ∃ ms', ofEntries type es' = .ok ms' ∧ ms.Perm ms' := by
  obtain ⟨all, hall, rfl⟩ := ofEntries_eq_ok_iff.mp h
  -- whether an entry is taken does not depend on where it stands
  obtain ⟨all', hall', hsame⟩ := List.perm_comp_forall₂ hperm.symm hall
  exact ⟨_, ofEntries_eq_ok_iff.mpr ⟨all', hall', rfl⟩, hsame.symm.filter _⟩

/-- The modifiers of a mapping stand under the names of its entries, in their order. -/
theorem names_sublist {es : List (String × Value)}
    (h : ofEntries type (Dict.ofStrings es) = .ok ms) :
    (ms.map fun m => m.key.name).Sublist (es.map Prod.fst) := by
  obtain ⟨all, hall, rfl⟩ := ofEntries_eq_ok_iff.mp h
  rw [Dict.ofStrings, List.forall₂_map_left_iff] at hall
  have hnames : all.map (fun m => m.key.name) = es.map Prod.fst := by
    rw [← List.forall₂_eq_eq_eq, List.forall₂_map_left_iff, List.forall₂_map_right_iff]
    exact hall.flip.imp fun m e hm => (ofEntry_eq_ok hm).1.symm
  rw [← hnames]
  exact List.filter_sublist.map _

theorem nodup_keys {es : List (String × Value)} (hnames : (es.map Prod.fst).Nodup)
    (h : ofEntries type (Dict.ofStrings es) = .ok ms) : (ms.map key).Nodup := by
  have hnodup := hnames.sublist (names_sublist h)
  refine List.Nodup.of_map ModifierKey.name ?_
  rwa [List.map_map]

end Modifier

/-! ## Fields -/

namespace FieldDecl

/-- A declared field with its modifiers, which have different names, in another order. -/
inductive Reorders (x : FieldDecl) : FieldDecl → Prop
  | same : Reorders x x
  | permuted {ms : List (String × Value)} (names : (x.modifiers.map Prod.fst).Nodup)
      (perm : x.modifiers.Perm ms) : Reorders x { x with modifiers := ms }

variable {x y : FieldDecl}

theorem Reorders.symm (h : Reorders x y) : Reorders y x := by
  cases h with
  | same => exact .same
  | permuted names perm => exact .permuted ((perm.map Prod.fst).nodup_iff.mp names) perm.symm

/-- A field that can be extracted is extracted from every order of its modifiers. -/
theorem Reorders.extract {f : Field} (h : Reorders x y) (hx : Field.extract x = .ok f) :
    Field.extract y = .ok f := by
  cases h with
  | same => exact hx
  | @permuted entries names perm =>
    obtain ⟨t, nullable, ms, htype, hms, rfl⟩ := Field.extract_eq_ok_iff.mp hx
    have hentries : (Dict.ofStrings x.modifiers).Perm (Dict.ofStrings entries) := perm.map _
    obtain ⟨ms', hms', hsame⟩ := Modifier.ofEntries_perm hentries hms
    have hfield := Modifier.foldl_apply_perm hsame (Modifier.nodup_keys names hms)
      (Field.plain x.name t nullable)
    exact Field.extract_eq_ok_iff.mpr ⟨t, nullable, ms', htype, hms', hfield.symm⟩

theorem Reorders.extract_iff {f : Field} (h : Reorders x y) :
    Field.extract x = .ok f ↔ Field.extract y = .ok f :=
  ⟨h.extract, h.symm.extract⟩

end FieldDecl

end Relvar
