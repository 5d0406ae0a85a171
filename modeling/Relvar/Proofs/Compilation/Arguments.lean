/-
When the names that the operations take differ. No stage of a compilation looks at two
fields together except to find a second key, so nothing stops two fields from having
one name. The key and the names that an update takes are the names of all fields, in
another order; so the names differ in the statements exactly if they differ in the
declaration.
-/
import Relvar.Proofs.Compilation.Validity

set_option autoImplicit false

namespace Relvar

/-- The operations on a compiled model name a column once: the key is not among the
columns that an update sets, and neither an insert nor an update has a column twice. -/
structure Compiled.NamesOnce (c : Compiled) : Prop where
  key : ∀ k, c.key = some k → k.name ∉ c.arguments.update
  create : c.arguments.create.Nodup
  update : c.arguments.update.Nodup

/-! ## The names of a compiled model -/

namespace Compiled.IsModelOf

variable {settings : CompilerSettings} {model : String} {fs : List Field} {c : Compiled}

theorem key_name (h : c.IsModelOf settings model fs) :
    c.key.map (·.name) = (fs.find? (·.isPrimaryKey)).map (·.name) := by
  have hkey := h.keyName
  have hsource := h.generation
  cases hfind : fs.find? (·.isPrimaryKey) with
  | none =>
    rw [hfind, Option.map_none, Option.map_eq_none_iff] at hsource
    rw [hsource]
    rfl
  | some f =>
    rw [hfind] at hkey hsource
    obtain ⟨k, hk, -⟩ := Option.map_eq_some_iff.mp hsource
    rw [Compiled.keyName, PrimaryKey.nameOf, hk] at hkey
    rw [hk]
    exact congrArg some hkey

/-- One field at most is marked, so the marked fields are the one that is found first. -/
theorem marked_eq (h : c.IsModelOf settings model fs) :
    fs.filter (·.isPrimaryKey) = (fs.find? (·.isPrimaryKey)).toList := by
  have hone := h.marked
  rw [← List.head?_filter]
  generalize fs.filter (·.isPrimaryKey) = marked at hone ⊢
  cases marked with
  | nil => rfl
  | cons f rest =>
    rw [List.length_cons] at hone
    obtain rfl : rest = [] := List.length_eq_zero_iff.mp (by omega)
    rfl

/-- The name of the key and the names that an update takes are the names of the fields. -/
theorem names_perm (h : c.IsModelOf settings model fs) :
    ((c.key.map (·.name)).toList ++ c.arguments.update).Perm (fs.map (·.name)) := by
  have hkey : (c.key.map (·.name)).toList = (fs.filter (·.isPrimaryKey)).map (·.name) := by
    rw [h.key_name, h.marked_eq]
    cases fs.find? (·.isPrimaryKey) <;> rfl
  rw [hkey, h.update, ← List.map_append]
  exact (List.filter_append_perm _ fs).map _

/-- The operations name a column once exactly if the fields have different names. -/
theorem namesOnce_iff (h : c.IsModelOf settings model fs) :
    c.NamesOnce ↔ (fs.map (·.name)).Nodup := by
  rw [← h.names_perm.nodup_iff, List.nodup_append]
  constructor
  · intro honce
    refine ⟨?_, honce.update, ?_⟩
    · cases c.key <;> simp
    · intro a ha b hb hab
      obtain ⟨k, hk, rfl⟩ := Option.map_eq_some_iff.mp (Option.mem_toList.mp ha)
      exact honce.key k hk (hab ▸ hb)
  · rintro ⟨hkey, hupdate, hapart⟩
    refine ⟨?_, ?_, hupdate⟩
    · intro k hk hmem
      exact hapart k.name (by simp [hk]) k.name hmem rfl
    · -- what an insert takes is a part of the names of all fields
      have hall : (fs.map (·.name)).Nodup :=
        h.names_perm.nodup_iff.mp (List.nodup_append.mpr ⟨hkey, hupdate, hapart⟩)
      rw [h.create]
      exact hall.sublist (List.filter_sublist.map _)

end Compiled.IsModelOf

/-! ## Compiled sources -/

/-- Extraction keeps the names of the fields. -/
theorem Field.names_eq {xs : List FieldDecl} {fs : List Field}
    (h : List.Forall₂ (fun x f => Field.extract x = .ok f) xs fs) :
    fs.map (·.name) = xs.map (·.name) := by
  induction h with
  | nil => rfl
  | cons hx _ ih => rw [List.map_cons, List.map_cons, ih, (Field.extract_eq_ok hx).name]

/-- **When the operations name a column once.** Of a source that is compiled, in any
shape, the operations name a column once exactly if the declared fields have different
names. -/
theorem compiled_namesOnce_iff (settings : CompilerSettings) (source name : Value) (s : Session)
    (c : Compiled) (hc : ((Compiler.compile settings source name).run s).1 = .ok c) :
    ∃ d, ModelDecl.ofSource source name = .ok d ∧
      (c.NamesOnce ↔ (d.fields.map (·.name)).Nodup) := by
  rw [(Compiler.compile_answers settings source name).outcome s] at hc
  obtain ⟨d, hd, hc⟩ := Except.bind_eq_ok.mp hc
  obtain ⟨fs, -, hfs, hmodel⟩ := Compilation.ofDecl_eq_ok hc
  refine ⟨d, hd, ?_⟩
  rw [hmodel.namesOnce_iff, Field.names_eq hfs]

theorem visits_namesOnce :
    ((Compiler.compile .default (.model visitsDecl) .null).run calmSession).1 = .ok visits ∧
      visits.NamesOnce := by
  refine ⟨compile_visits calmSession, ?_⟩
  obtain ⟨d, hd, honce⟩ :=
    compiled_namesOnce_iff .default _ _ calmSession visits (compile_visits calmSession)
  obtain rfl : visitsDecl = d := Except.ok.inj hd
  exact honce.mpr (by decide)

/-- A list of fields in which the name of the key comes twice, and that of another
column. -/
def repeatedFields : Value :=
  .list [
    .tuple [.str "id", .str "Serial", .dict [(.str "primary_key", .bool true)]],
    .tuple [.str "id", .str "Text"],
    .tuple [.str "note", .str "Text"],
    .tuple [.str "note", .str "Text"]]

/-- What the list is compiled to under a name. -/
def repeatedNotes : Compiled where
  model := "notes"
  table := "create table if not exists notes (id serial primary key, id text not null, " ++
    "note text not null, note text not null);"
  key := some ⟨"id", .serial⟩
  arguments := ⟨["id", "note", "note"], ["id", "note", "note"]⟩
  delete := "delete from notes where id=?1;"
  definition := ⟨"notes", [
    { Field.plain "id" .serial false with isPrimaryKey := true },
    Field.plain "id" .text false, Field.plain "note" .text false, Field.plain "note" .text false]⟩

/-- The list is compiled all the same: an update sets the column that it looks the row
up by, and both statements have a column twice. -/
theorem compile_repeatedFields :
    ((Compiler.compile .default repeatedFields (.str "notes")).run calmSession).1 =
        .ok repeatedNotes ∧
      repeatedNotes.keyName ∈ repeatedNotes.arguments.update ∧
      ¬ repeatedNotes.arguments.create.Nodup ∧ ¬ repeatedNotes.arguments.update.Nodup := by
  refine ⟨?_, by decide, by decide, by decide⟩
  rw [(Compiler.compile_answers _ _ _).outcome calmSession]
  exact Except.eq_ok_of_toOption (by decide +kernel)

end Relvar
