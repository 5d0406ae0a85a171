/-
Statements on rows as they are sent. In every style, a statement on rows that is sent
with its parameters is read back as what it was written for: each column with the
value that was meant for it.
-/
import Relvar.Proofs.Sql.Binding
import Relvar.Proofs.Sql.Row

set_option autoImplicit false

namespace Relvar.Sql

open Statement (Textless)

/-! ## Lexemes without texts -/

theorem textless_intercalate {α : Type} {spell : α → List Lexeme} (as : List α)
    (h : ∀ a, Textless (spell a)) : Textless (comma.intercalate (as.map spell)) := by
  intro s hs
  rcases mem_intercalate hs with hs | ⟨ls, hls, hs⟩
  · simp [comma] at hs
  · obtain ⟨a, -, rfl⟩ := List.mem_map.mp hls
    exact h a s hs

theorem textless_key (e : String × Nat) : Textless (keyLexemes e) := by
  simp [Textless, keyLexemes, pairLexemes]

theorem textless_insert (table : String) (names : List String) :
    Textless (insertLexemes table names) := by
  have hcolumns : Textless (comma.intercalate (names.map fun s => [.word s])) :=
    textless_intercalate names (by simp [Textless])
  have hmarkers : Textless
      (comma.intercalate ((List.range' 1 names.length).map fun n => [.marker n])) :=
    textless_intercalate _ (by simp [Textless])
  intro s
  rw [insertLexemes]
  split
  · simp
  · simp [hcolumns s, hmarkers s]

theorem textless_update (table key : String) (names : List String) :
    Textless (updateLexemes table key names) := by
  have hpairs : Textless (comma.intercalate ((counted names).map pairLexemes)) :=
    textless_intercalate _ (by simp [Textless, pairLexemes])
  intro s
  rw [updateLexemes]
  simp [hpairs s, textless_key _ s]

theorem textless_delete (table key : String) : Textless (deleteLexemes table key) := by
  intro s
  rw [deleteLexemes]
  simp [textless_key _ s]

/-! ## Sending -/

/-- A statement with its parameters is sent, and read as a row; or it has so many
parameters that the number of one has too many digits. -/
def SentAs (style : BindStyle) (statement : String) (params : List Value) (r : Row Value) :
    Prop :=
  (∃ text, Statement.bind style statement params = .ok (text, params) ∧
      row style text params = some r) ∨
    Decimal.firstTooLong ≤ params.length ∧
      ∃ e, Statement.bind style statement params = .error (.numeral e)

variable {style : BindStyle} {table key : String} {names : List String} {params : List Value}

/-- What is written as lexemes is read from what is sent, if the markers count the
parameters. -/
theorem sentAs_lexemes {statement : String} {ls : List Lexeme} {shape : Row Nat} {r : Row Value}
    (hwritten : statement.toList = written ls) (hls : Legible ls) (htext : Textless ls)
    (hmarkers : ls.flatMap Lexeme.markers = List.range' 1 params.length)
    (hshape : readRow (spelled ls) = some shape) (hr : shape.resolve params = some r) :
    SentAs style statement params r := by
  have hstatement : statement = String.ofList (written ls) := by
    rw [← hwritten, String.ofList_toList]
  rw [SentAs, hstatement]
  refine (Statement.bind_written style hls htext hmarkers).imp_left fun hbind => ⟨_, hbind, ?_⟩
  simp only [row, hls.tokens, Option.bind_eq_bind, Option.bind_some, numbered_tokens style hmarkers,
    hshape, hr]

theorem sentAs_insert (htable : IsWord table) (hnames : ∀ s ∈ names, IsWord s)
    (h : names.length = params.length) :
    SentAs style (Statement.insert table names) params
      ⟨.insert, table, names.zip params, none⟩ :=
  sentAs_lexemes (toList_insert table names) (legible_insert htable hnames)
    (textless_insert table names) (h ▸ markers_insert table names) (readRow_insert table names)
    (resolve_insert table h)

theorem sentAs_update (htable : IsWord table) (hkey : IsWord key) (hnames : ∀ s ∈ names, IsWord s)
    (hne : names ≠ []) (k : Value) (h : names.length = params.length) :
    SentAs style (Statement.update table key names) (params ++ [k])
      ⟨.update, table, names.zip params, some (key, k)⟩ := by
  have hlength : (params ++ [k]).length = names.length + 1 := by simp [h]
  exact sentAs_lexemes (toList_update table key names) (legible_update htable hkey hnames)
    (textless_update table key names) (hlength ▸ markers_update table key names)
    (readRow_update table key hne) (resolve_keyed .update table key k h)

theorem sentAs_delete (htable : IsWord table) (hkey : IsWord key) (k : Value) :
    SentAs style (Statement.delete table key) [k] ⟨.delete, table, [], some (key, k)⟩ := by
  have hlength : ([] : List String).length = ([] : List Value).length := rfl
  exact sentAs_lexemes (toList_delete table key) (legible_delete htable hkey)
    (textless_delete table key) rfl (readRow_delete table key)
    (resolve_keyed .delete table key k hlength)

end Relvar.Sql
