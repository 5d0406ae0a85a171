/-
What a mapping declares. Each entry of a mapping declares one field, in the order of the
entries: the declared field that is its value, or else a field under the name that its key is.
A declared field keeps its own name, so the fields have the names of the keys exactly if every
declared field among the values has the name of its key. They then have different names, as
the keys of a mapping differ; otherwise two entries may declare the same column.
-/
import Relvar.Proofs.Compilation.Validity
import Relvar.Proofs.Shapes
import Mathlib.Data.List.Nodup

set_option autoImplicit false

namespace Relvar

/-! ## Entries -/

namespace FieldDecl

/-- The field that an entry of a mapping declares: the declared field that its value is, or a
field under the name that its key is. -/
inductive OfEntry : Value × Value → FieldDecl → Prop
  | itself (key : Value) (f : FieldDecl) : OfEntry (key, .field f) f
  | named {key v : Value} {f : FieldDecl} (other : ∀ g, v ≠ .field g)
      (name : key.asText? = some f.name) : OfEntry (key, v) f

variable {model name declared modifiers key v : Value} {f : FieldDecl}

/-- A declared field that is built has the name that is spelled. -/
theorem spelledText_of_ofValues (h : ofValues name declared modifiers = .ok f) :
    name.spelledText = .ok f.name := by
  obtain ⟨withType, _, htype, -, rfl⟩ := Checked.with_eq_ok (Except.mapError_eq_ok.mp h)
  obtain ⟨withName, _, hname, -, rfl⟩ := Checked.with_eq_ok htype
  obtain ⟨build, s, hbuild, hs, rfl⟩ := Checked.with_eq_ok hname
  obtain rfl := Except.ok.inj hbuild
  exact Value.spelledText_of_checkName hs

theorem asText?_of_isName (h : isName v = true) : ∃ s, v.asText? = some s ∧ s ≠ "" := by
  rw [isName] at h
  obtain ⟨s, hs, hne⟩ := (Option.any_eq_true _ _).mp h
  exact ⟨s, hs, bne_iff_ne.mp hne⟩

/-- A declared field that is built under text has that text for its name. -/
theorem asText?_of_ofValues (hname : isName name = true)
    (h : ofValues name declared modifiers = .ok f) : name.asText? = some f.name := by
  obtain ⟨s, hs, -⟩ := asText?_of_isName hname
  have hspelled := spelledText_of_ofValues h
  rw [Value.spelledText_of_asText? hs] at hspelled
  rw [hs, Except.ok.inj hspelled]

theorem asText?_of_ofTriple (hname : isName name = true)
    (h : ofTriple model name declared modifiers = .ok f) : name.asText? = some f.name := by
  unfold ofTriple at h
  split at h
  · cases h
  · exact asText?_of_ofValues hname (Except.mapError_eq_ok.mp h)

/-- A tuple declares a field under the name that it starts with. -/
theorem asText?_of_ofItem {parts : List Value}
    (h : ofItem model (.tuple (key :: parts)) = .ok f) : key.asText? = some f.name := by
  unfold ofItem at h
  split at h
  · next g heq => cases heq
  · next name declared heq =>
    obtain ⟨rfl, rfl⟩ := List.cons.inj (Value.tuple.inj heq)
    split at h
    · next hname => exact asText?_of_ofTriple hname h
    · cases h
  · next name declared modifiers heq =>
    obtain ⟨rfl, rfl⟩ := List.cons.inj (Value.tuple.inj heq)
    split at h
    · next hname => exact asText?_of_ofTriple hname h
    · cases h
  · cases h

theorem ofEntry_declares (h : ofEntry model key v = .ok f) : OfEntry (key, v) f := by
  unfold ofEntry at h
  split at h
  · next hname =>
    split at h
    · next g => exact Except.ok.inj h ▸ .itself key g
    · next parts => exact .named (fun g => nofun) (asText?_of_ofItem h)
    · next hother _ =>
      exact .named hother (asText?_of_ofValues hname (Except.mapError_eq_ok.mp h))
  · cases h

theorem ofEntries_declare {es : List (Value × Value)} {fs : List FieldDecl}
    (h : ofEntries model es = .ok fs) : List.Forall₂ OfEntry es fs := by
  rw [ofEntries_eq_mapM] at h
  exact (Except.mapM_eq_ok.mp h).imp fun _ _ => ofEntry_declares

end FieldDecl

/-! ## Mappings -/

namespace ModelDecl

variable {es : List (Value × Value)} {fs : List FieldDecl} {name : Value} {d : ModelDecl}

/-- The declared fields among the values of a mapping have the names of their keys. -/
def KeysNameFields (es : List (Value × Value)) : Prop :=
  ∀ e ∈ es, ∀ f : FieldDecl, e.2 = .field f → e.1.asText? = some f.name

/-- Each entry names its field by its key exactly if the declared fields do. -/
theorem names_eq_keys_iff (h : List.Forall₂ FieldDecl.OfEntry es fs) :
    fs.map (fun f => some f.name) = es.map (fun e => e.1.asText?) ↔ KeysNameFields es := by
  induction h with
  | nil => simp [KeysNameFields]
  | @cons e f es fs he _ ih =>
    rw [KeysNameFields, List.forall_mem_cons, ← KeysNameFields, ← ih, List.map_cons,
      List.map_cons, List.cons.injEq]
    refine and_congr_left' ?_
    cases he with
    | itself key g =>
      constructor
      · intro hkey f hf
        obtain rfl := Value.field.inj hf
        exact hkey.symm
      · exact fun hkey => (hkey f rfl).symm
    | named other hname => exact iff_of_true hname.symm fun g hg => absurd hg (other g)

/-- Names that are the keys of a mapping differ. -/
theorem nodup_of_keys (hkeys : (es.map Prod.fst).Pairwise fun a b => a.sameKey b = false)
    (h : fs.map (fun f => some f.name) = es.map (fun e => e.1.asText?)) :
    (fs.map (·.name)).Nodup := by
  have hdistinct : (es.map fun e => e.1.asText?).Nodup := by
    rw [List.Nodup, List.pairwise_map]
    rw [List.pairwise_map] at hkeys
    refine hkeys.imp_of_mem fun {e e'} he he' hne hsame => ?_
    -- every key is text, because it is the name of a field
    obtain ⟨f, -, hf⟩ := List.mem_map.mp (h ▸ List.mem_map_of_mem he)
    rw [Value.sameKey_text hf.symm (hsame ▸ hf.symm), beq_self_eq_true] at hne
    cases hne
  rw [← h] at hdistinct
  refine List.Nodup.of_map some ?_
  rwa [List.map_map]

/-- An entry of a mapping declares a field, and the fields come in the order of the entries. -/
theorem ofSource_declares (h : ofSource (.dict es) name = .ok d) :
    List.Forall₂ FieldDecl.OfEntry es d.fields := by
  obtain ⟨-, fs, hfs, hd⟩ := ofFields_eq_ok.mp h
  obtain ⟨n, -, rfl⟩ := named_eq_ok hd
  exact FieldDecl.ofEntries_declare hfs

/-- **What a mapping declares.** A mapping that is accepted declares one field for each of its
entries, in their order: the declared field that the value is, or a field under the key. So the
names of the fields are the keys exactly if every declared field among the values has the name
of its key, in particular if there is no declared field among them, and then they differ. -/
theorem mapping_declares (es : List (Value × Value)) (name : Value) (d : ModelDecl)
    (h : ofSource (.dict (Dict.ofList es)) name = .ok d) :
    List.Forall₂ FieldDecl.OfEntry (Dict.ofList es) d.fields ∧
    (d.fields.map (fun f => some f.name) = (Dict.ofList es).map (fun e => e.1.asText?) ↔
      KeysNameFields (Dict.ofList es)) ∧
    (KeysNameFields (Dict.ofList es) → (d.fields.map (·.name)).Nodup) := by
  have hdeclares := ofSource_declares h
  have hnames := names_eq_keys_iff hdeclares
  exact ⟨hdeclares, hnames, fun hkeys =>
    nodup_of_keys (Dict.pairwise_ofList es) (hnames.mpr hkeys)⟩

/-- A mapping with a value of each kind, in which the declared field has the name of its
key. -/
def noteEntries : List (Value × Value) :=
  [(.str "id", .tuple [.str "Integer", .dict [(.str "primary_key", .bool true)]]),
    (.str "title", .str "Text"),
    (.str "user_id", .field ⟨"user_id", .str "Integer", []⟩)]

/-- What the mapping declares. -/
def noteFields : List FieldDecl :=
  [⟨"id", .str "Integer", [("primary_key", .bool true)]⟩, ⟨"title", .str "Text", []⟩,
    ⟨"user_id", .str "Integer", []⟩]

theorem mapping_declares_note :
    ofSource (.dict (Dict.ofList noteEntries)) (.str "Note") = .ok ⟨.str "Note", noteFields⟩ ∧
      KeysNameFields (Dict.ofList noteEntries) ∧ (noteFields.map (·.name)).Nodup := by
  have hsource : ofSource (.dict (Dict.ofList noteEntries)) (.str "Note") =
      .ok ⟨.str "Note", noteFields⟩ := by rfl
  obtain ⟨-, hnames, hnodup⟩ := mapping_declares _ _ _ hsource
  have hkeys := hnames.mp (by rfl)
  exact ⟨hsource, hkeys, hnodup hkeys⟩

/-- A mapping in which a declared field has another name than its key, the name of the other
key. -/
def renamedEntries : List (Value × Value) :=
  [(.str "id", .field ⟨"user_id", .str "Integer", []⟩), (.str "user_id", .str "Text")]

/-- The mapping is accepted all the same, and declares two fields under one name. -/
theorem ofSource_renamedEntries : ∃ d,
    ofSource (.dict (Dict.ofList renamedEntries)) (.str "Note") = .ok d ∧
      d.fields.map (·.name) = ["user_id", "user_id"] ∧
      (Dict.ofList renamedEntries).map (fun e => e.1.asText?) = [some "id", some "user_id"] :=
  ⟨_, rfl, rfl, rfl⟩

end ModelDecl

end Relvar
