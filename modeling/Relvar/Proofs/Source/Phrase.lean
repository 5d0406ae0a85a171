/-
Phrases: tokens that are read as one expression wherever an expression may stand, and tokens
that are read as the entries of a mapping or as statements wherever these may go on. Phrases
are put together from phrases, so what a source is read as follows its layout. Each statement
holds whatever was read in front of the tokens and whatever brackets are open around them.
-/
import Relvar.Proofs.Source.Lexeme
import Relvar.Proofs.Value.Text

set_option autoImplicit false

namespace Relvar.Source

/-! ## Steps in a row -/

theorem run_cons {t : Token} {ts : List Token} {r r' : Reading} (h : r.step t = some r') :
    (t :: ts).foldlM Reading.step r = ts.foldlM Reading.step r' := by
  rw [List.foldlM_cons, h]
  rfl

theorem run_append {ts us : List Token} {r r' : Reading}
    (h : ts.foldlM Reading.step r = some r') :
    (ts ++ us).foldlM Reading.step r = us.foldlM Reading.step r' := by
  rw [List.foldlM_append, h]
  rfl

/-! ## Expressions -/

/-- Tokens that are one expression wherever an expression may stand. -/
def IsPhrase (ts : List Token) (e : Expr) : Prop :=
  ∀ done target frames, ts.foldlM Reading.step ⟨done, false, target, frames, none⟩ =
    some ⟨done, false, target, frames, some e⟩

theorem isPhrase_text (s : String) : IsPhrase [.text s] (.text s) := fun _ _ _ => rfl

theorem isPhrase_name {s : String} (hs : IsName s) : IsPhrase [.name s] (.name s) := by
  intro done target frames
  simp [Reading.step, Reading.place, hs.free]

/-! ## Tuples -/

/-- Texts with commas between them. -/
def itemRow : List String → List Lexeme
  | [] => []
  | [s] => [.quote s]
  | s :: t :: ss => .quote s :: .sign ',' :: .blank :: itemRow (t :: ss)

/-- A tuple of texts. A single one is followed by a comma, which makes it a tuple. -/
def tupleRow : List String → List Lexeme
  | [s] => [.sign '(', .quote s, .sign ',', .sign ')']
  | ss => .sign '(' :: (itemRow ss ++ [.sign ')'])

theorem written_itemRow (ss : List String) :
    written (itemRow ss) = (", ".intercalate (ss.map Text.quote)).toList := by
  induction ss with
  | nil => rfl
  | cons s ss ih =>
    cases ss with
    | nil => simp [itemRow]
    | cons t ss =>
      rw [String.toList_intercalate] at ih ⊢
      rw [itemRow, written_cons, written_cons, written_cons, ih]
      simp only [List.map_cons, List.intercalate_cons_cons]
      simp

theorem written_tupleRow (ss : List String) :
    written (tupleRow ss) = (tupled (ss.map Text.quote)).toList := by
  rcases ss with _ | ⟨s, _ | ⟨t, ss⟩⟩
  · rfl
  · simp [tupleRow, tupled]
  · rw [tupleRow, written_cons, written_append, written_itemRow]
    · simp [tupled, bracketed]
    · intro u hu
      cases hu

theorem legible_items (ss : List String) : Legible (itemRow ss ++ [.sign ')']) := by
  induction ss with
  | nil => exact .sign (by decide) .nil
  | cons s ss ih =>
    cases ss with
    | nil => exact .solid (Lexeme.quote_ok s) rfl ih
    | cons t ss => exact .solid (Lexeme.quote_ok s) rfl (.sign (by decide) (.blank ih))

theorem legible_tupleRow (ss : List String) : Legible (tupleRow ss) := by
  rcases ss with _ | ⟨s, _ | ⟨t, ss⟩⟩
  · exact .sign (by decide) (legible_items [])
  · exact .sign (by decide)
      (.solid (Lexeme.quote_ok s) rfl (.sign (by decide) (.sign (by decide) .nil)))
  · exact .sign (by decide) (legible_items (s :: t :: ss))

/-- Between round brackets, texts with commas between them are items, the last of which no comma
follows yet. -/
theorem run_itemRow (done : List Statement) (target : Option String) (frames : List Frame)
    (s : String) (ss : List String) (es : List Expr) :
    ∃ items last, es ++ (s :: ss).map .text = items ++ [last] ∧
      (spelled (itemRow (s :: ss))).foldlM Reading.step
          ⟨done, false, target, .round es :: frames, none⟩ =
        some ⟨done, false, target, .round items :: frames, some last⟩ := by
  induction ss generalizing s es with
  | nil => exact ⟨es, .text s, rfl, rfl⟩
  | cons t ss ih =>
    obtain ⟨items, last, hitems, hrest⟩ := ih t (es ++ [.text s])
    refine ⟨items, last, by simpa using hitems, ?_⟩
    have htokens : spelled (itemRow (s :: t :: ss)) =
        .text s :: .sign ',' :: spelled (itemRow (t :: ss)) := by simp [itemRow]
    have htext : Reading.step ⟨done, false, target, .round es :: frames, none⟩ (.text s) =
        some ⟨done, false, target, .round es :: frames, some (.text s)⟩ := rfl
    have hcomma : Reading.step ⟨done, false, target, .round es :: frames, some (.text s)⟩
        (.sign ',') = some ⟨done, false, target, .round (es ++ [.text s]) :: frames, none⟩ := rfl
    rw [htokens, run_cons htext, run_cons hcomma, hrest]

/-- A tuple of texts is read as the tuple of these texts. -/
theorem isPhrase_tuple (ss : List String) :
    IsPhrase (spelled (tupleRow ss)) (.tuple (ss.map .text)) := by
  intro done target frames
  rcases ss with _ | ⟨s, _ | ⟨t, ss⟩⟩
  · rfl
  · rfl
  · obtain ⟨items, last, hitems, hrest⟩ := run_itemRow done target frames s (t :: ss) []
    have htokens : spelled (tupleRow (s :: t :: ss)) =
        .sign '(' :: (spelled (itemRow (s :: t :: ss)) ++ [.sign ')']) := by simp [tupleRow]
    have hopen : Reading.step ⟨done, false, target, frames, none⟩ (.sign '(') =
        some ⟨done, false, target, .round [] :: frames, none⟩ := rfl
    rw [htokens, run_cons hopen, run_append hrest]
    cases items with
    -- there is a second text, so the last one is not the only one
    | nil => simp at hitems
    | cons i is =>
      rw [List.nil_append] at hitems
      rw [hitems]
      rfl

/-! ## Mappings -/

/-- Tokens that are entries wherever a mapping may go on with one. -/
def AreEntries (ts : List Token) (es : List (Expr × Expr)) : Prop :=
  ∀ done target frames before,
    ts.foldlM Reading.step ⟨done, false, target, .curly before none :: frames, none⟩ =
      some ⟨done, false, target, .curly (before ++ es) none :: frames, none⟩

theorem areEntries_nil : AreEntries [] [] := by
  intro done target frames before
  rw [List.append_nil]
  rfl

theorem AreEntries.append {ts us : List Token} {es fs : List (Expr × Expr)} (h : AreEntries ts es)
    (h' : AreEntries us fs) : AreEntries (ts ++ us) (es ++ fs) := by
  intro done target frames before
  rw [run_append (h done target frames before), h', List.append_assoc]

theorem AreEntries.flatMap {α : Type} {f : α → List Token} {g : α → Expr × Expr} {as : List α}
    (h : ∀ a ∈ as, AreEntries (f a) [g a]) : AreEntries (as.flatMap f) (as.map g) := by
  induction as with
  | nil => exact areEntries_nil
  | cons a as ih =>
    obtain ⟨ha, has⟩ := List.forall_mem_cons.mp h
    exact ha.append (ih has)

/-- An entry on lines of its own. -/
theorem areEntries_line (key : String) {ts : List Token} {e : Expr} (h : IsPhrase ts e) :
    AreEntries (.indent :: .text key :: .sign ':' :: (ts ++ [Token.sign ',', Token.newline]))
      [(.text key, e)] := by
  intro done target frames before
  have hkey : Reading.step ⟨done, false, target, .curly before none :: frames, none⟩ .indent =
      some ⟨done, false, target, .curly before none :: frames, none⟩ := rfl
  rw [run_cons hkey, run_cons rfl, run_cons rfl, run_append (h _ _ _)]
  rfl

/-- A mapping over several lines. -/
theorem isPhrase_dict {ts closing : List Token} {es : List (Expr × Expr)} (h : AreEntries ts es)
    (hclosing : closing = [] ∨ closing = [.indent]) :
    IsPhrase (.sign Scanner.openBrace :: .newline ::
      (ts ++ closing ++ [Token.sign Scanner.closeBrace])) (.dict es) := by
  intro done target frames
  have hopen : Reading.step ⟨done, false, target, frames, none⟩ (.sign Scanner.openBrace) =
      some ⟨done, false, target, .curly [] none :: frames, none⟩ := rfl
  have hline : Reading.step ⟨done, false, target, .curly [] none :: frames, none⟩ .newline =
      some ⟨done, false, target, .curly [] none :: frames, none⟩ := rfl
  rw [run_cons hopen, run_cons hline, List.append_assoc, run_append (h _ _ _ _), List.nil_append]
  rcases hclosing with rfl | rfl
  · rfl
  · rfl

/-! ## Statements -/

/-- Tokens that are statements wherever a source may go on with one. -/
def AreStatements (ts : List Token) (ss : List Statement) : Prop :=
  ∀ done, ts.foldlM Reading.step (.between done) = some (.between (done ++ ss))

theorem areStatements_nil : AreStatements [] [] := by
  intro done
  rw [List.append_nil]
  rfl

theorem AreStatements.append {ts us : List Token} {ss tt : List Statement}
    (h : AreStatements ts ss) (h' : AreStatements us tt) :
    AreStatements (ts ++ us) (ss ++ tt) := by
  intro done
  rw [run_append (h done), h', List.append_assoc]

theorem AreStatements.flatMap {α : Type} {f : α → List Token} {g : α → List Statement}
    {as : List α} (h : ∀ a ∈ as, AreStatements (f a) (g a)) :
    AreStatements (as.flatMap f) (as.flatMap g) := by
  induction as with
  | nil => exact areStatements_nil
  | cons a as ih =>
    obtain ⟨ha, has⟩ := List.forall_mem_cons.mp h
    exact ha.append (ih has)

/-- An empty line is no statement. -/
theorem areStatements_newline : AreStatements [.newline] [] := by
  intro done
  rw [List.append_nil]
  rfl

/-- A text on a line of its own. -/
theorem areStatements_text (s : String) :
    AreStatements [.text s, .newline] [⟨none, .text s⟩] := fun _ => rfl

/-- A name takes the value of an expression. -/
theorem areStatements_assign {x : String} (hx : IsName x) {ts : List Token} {e : Expr}
    (h : IsPhrase ts e) :
    AreStatements (.name x :: .sign '=' :: (ts ++ [Token.newline])) [⟨some x, e⟩] := by
  intro done
  have hname : Reading.step (.between done) (.name x) =
      some ⟨done, false, none, [], some (.name x)⟩ := by
    simp [Reading.step, Reading.between, Reading.place, hx.free]
  have hassign : Reading.step ⟨done, false, none, [], some (.name x)⟩ (.sign '=') =
      some ⟨done, false, some x, [], none⟩ := rfl
  rw [run_cons hname, run_cons hassign, run_append (h done (some x) [])]
  rfl

/-- The statements of a source are what its tokens are read as. -/
theorem AreStatements.statements {ts : List Token} {ss : List Statement} (h : AreStatements ts ss) :
    statements ts = some ss := by
  rw [Source.statements, h [], List.nil_append]
  rfl

/-! ## Values -/

/-- Texts stand for themselves. -/
theorem evalAll_text (env : Bindings) (ss : List String) :
    evalAll env (ss.map .text) = some (ss.map .str) := by
  induction ss with
  | nil => rfl
  | cons s ss ih =>
    rw [List.map_cons, evalAll, Expr.eval, ih]
    rfl

/-- An entry whose key is a new text comes last. -/
theorem insert_fresh {es : List (String × Value)} {key : String} (v : Value)
    (h : key ∉ es.map Prod.fst) :
    Dict.insert (Dict.ofStrings es) (.str key) v = Dict.ofStrings (es ++ [(key, v)]) := by
  have hfree : ∀ e ∈ Dict.ofStrings es, e.1.sameKey (.str key) = false := by
    rw [Dict.ofStrings, List.forall_mem_map]
    intro e he
    rw [Value.sameKey_text rfl rfl]
    refine beq_false_of_ne fun hkey => h ?_
    exact List.mem_map.mpr ⟨e, he, hkey⟩
  rw [Dict.insert_fresh v hfree, Dict.ofStrings, Dict.ofStrings, List.map_append]
  rfl

section Mappings

variable {α : Type} (env : Bindings) (key : α → String) (e : α → Expr) (v : α → Value)

/-- Entries behind others, all with different texts for keys, come behind them. -/
theorem evalEntries_text {before as : List α} (hkeys : ((before ++ as).map key).Nodup)
    (hvalues : ∀ a ∈ as, (e a).eval env = some (v a)) :
    evalEntries env (Dict.ofStrings (before.map fun a => (key a, v a)))
        (as.map fun a => (.text (key a), e a)) =
      some (Dict.ofStrings ((before ++ as).map fun a => (key a, v a))) := by
  induction as generalizing before with
  | nil => simp [evalEntries]
  | cons a as ih =>
    obtain ⟨ha, has⟩ := List.forall_mem_cons.mp hvalues
    have hfresh : key a ∉ (before.map fun a => (key a, v a)).map Prod.fst := by
      intro hmem
      rw [List.map_map] at hmem
      rw [List.map_append, List.nodup_append] at hkeys
      exact hkeys.2.2 (key a) hmem (key a) (by simp) rfl
    have hsplit : before ++ a :: as = before ++ [a] ++ as := by simp
    rw [hsplit] at hkeys ⊢
    rw [← ih hkeys has, List.map_append, List.map_singleton, ← insert_fresh (v a) hfresh,
      List.map_cons, evalEntries, Expr.eval, ha]
    rfl

/-- A mapping with different texts for keys is its entries with their values. -/
theorem eval_dict {as : List α} (hkeys : (as.map key).Nodup)
    (hvalues : ∀ a ∈ as, (e a).eval env = some (v a)) :
    (Expr.dict (as.map fun a => (.text (key a), e a))).eval env =
      some (.dict (Dict.ofStrings (as.map fun a => (key a, v a)))) := by
  have hnone : (([] ++ as).map key).Nodup := hkeys
  have hentries : evalEntries env [] (as.map fun a => (.text (key a), e a)) =
      some (Dict.ofStrings (as.map fun a => (key a, v a))) :=
    evalEntries_text env key e v hnone hvalues
  rw [Expr.eval, hentries]
  rfl

end Mappings

/-- Names that differ have the values that they are bound to. -/
theorem lookup_of_mem {env : Bindings} (h : (env.map Prod.fst).Nodup) {x : String} {v : Value}
    (hmem : (x, v) ∈ env) : env.lookup x = some v := by
  obtain ⟨newer, older, rfl⟩ := List.append_of_mem hmem
  refine List.lookup_eq_some_iff.mpr ⟨newer, older, rfl, fun p hp => ?_⟩
  rw [List.map_append, List.map_cons, List.nodup_append] at h
  have hne : p.1 ≠ x := h.2.2 p.1 (List.mem_map_of_mem hp) x List.mem_cons_self
  simpa using hne.symm

/-- Assignments of expressions that have a value wherever they stand bind the names to these
values, the last one first. -/
theorem exec_assigns {α : Type} (x : α → String) (e : α → Expr) (v : α → Value) {as : List α}
    (h : ∀ a ∈ as, ∀ env, (e a).eval env = some (v a)) (env : Bindings) :
    (as.map fun a => ⟨some (x a), e a⟩ : List Statement).foldlM Statement.exec env =
      some ((as.map fun a => (x a, v a)).reverse ++ env) := by
  induction as generalizing env with
  | nil => rfl
  | cons a as ih =>
    obtain ⟨ha, has⟩ := List.forall_mem_cons.mp h
    have hexec : Statement.exec env ⟨some (x a), e a⟩ = some ((x a, v a) :: env) := by
      rw [Statement.exec, ha]
      rfl
    rw [List.map_cons, List.foldlM_cons, hexec, Option.bind_eq_bind, Option.bind_some, ih has,
      List.map_cons, List.reverse_cons, List.append_assoc, List.singleton_append]

end Relvar.Source
