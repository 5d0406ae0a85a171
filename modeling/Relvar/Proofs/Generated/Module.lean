/-
Generated modules decode back to what they were made from. The lines of a module are read block
by block: the heading, the constants of each model, the table with its entries. What each block
is read as is carried out in the same order. The constants all have different names, since no
two models share a prefix, so each keeps its value to the end, and the table finds it.
-/
import Relvar.Generated.Module
import Relvar.Proofs.Compilation.Result
import Relvar.Proofs.Generated.Constant
import Relvar.Proofs.Source.Phrase

set_option autoImplicit false

namespace Relvar.Generated

open Relvar.Source

/-! ## Lines -/

/-- Lines that are read as tokens, wherever the lines in front of them end. -/
def AreLines (ls : List String) (ts : List Token) : Prop :=
  Scanner.advance .start (unlines ls).toList = some (ts, .start)

theorem toList_unlines (ls : List String) :
    (unlines ls).toList = ls.flatMap fun l => l.toList ++ ['\n'] := by
  rw [unlines, String.toList_join, List.flatMap_map]
  simp

theorem areLines_nil : AreLines [] [] := rfl

theorem AreLines.append {ls ms : List String} {ts us : List Token} (h : AreLines ls ts)
    (h' : AreLines ms us) : AreLines (ls ++ ms) (ts ++ us) := by
  have hsplit : (unlines (ls ++ ms)).toList = (unlines ls).toList ++ (unlines ms).toList := by
    simp only [toList_unlines, List.flatMap_append]
  rw [AreLines, hsplit, Scanner.advance_append _ h, h']
  rfl

theorem AreLines.cons {l : String} {ls : List String} {ts us : List Token} (h : AreLines [l] ts)
    (h' : AreLines ls us) : AreLines (l :: ls) (ts ++ us) := h.append h'

theorem AreLines.flatMap {α : Type} {f : α → List String} {g : α → List Token} {as : List α}
    (h : ∀ a ∈ as, AreLines (f a) (g a)) : AreLines (as.flatMap f) (as.flatMap g) := by
  induction as with
  | nil => exact areLines_nil
  | cons a as ih =>
    obtain ⟨ha, has⟩ := List.forall_mem_cons.mp h
    exact ha.append (ih has)

/-- A line on its own. -/
theorem areLines_singleton {l : String} {ts : List Token}
    (h : Scanner.advance .start (l.toList ++ ['\n']) = some (ts, .start)) : AreLines [l] ts := by
  rw [AreLines, toList_unlines, List.flatMap_singleton]
  exact h

theorem areLines_empty : AreLines [""] [.newline] := areLines_singleton rfl

/-- A line is a row. -/
theorem areLines_row {l : Lexeme} {ls : List Lexeme} {line : String}
    (hline : line.toList = written (l :: ls)) (h : Legible (l :: ls)) (hl : l ≠ .blank) :
    AreLines [line] (spelled (l :: ls) ++ [.newline]) :=
  areLines_singleton (hline ▸ Scanner.advance_line h hl)

/-- A line is a row behind blanks. -/
theorem areLines_indented (n : Nat) {ls : List Lexeme} {line : String}
    (hline : line.toList = List.replicate (n + 1) ' ' ++ written ls) (h : Legible ls) :
    AreLines [line] (.indent :: (spelled ls ++ [.newline])) := by
  refine areLines_singleton ?_
  rw [hline, List.append_assoc]
  exact Scanner.advance_indented n h

/-! ## The heading -/

/-- What the heading says. -/
def heading : String :=
  "\nGenerated model artifacts.\n\nDo not edit by hand; regenerate from the model declarations.\n"

/-- The heading is a text over several lines. -/
theorem areLines_header : AreLines header [.text heading, .newline] := by
  have hall : heading.toList.all fun c =>
      c != Text.doubleQuote && c != '\\' && !Scanner.isForeign c := by decide
  -- nothing in the heading ends the text or starts an escape
  have hplain : ∀ c ∈ heading.toList,
      c ≠ Text.doubleQuote ∧ c ≠ '\\' ∧ Scanner.isForeign c = false := by
    intro c hc
    simpa [and_assoc] using List.all_eq_true.mp hall c hc
  have hlines : unlines header = "\"\"\"" ++ heading ++ "\"\"\"\n" := by rfl
  have hchars : (unlines header).toList = Text.doubleQuote :: Text.doubleQuote ::
      Text.doubleQuote :: (heading.toList ++ Text.doubleQuote :: Text.doubleQuote ::
        Text.doubleQuote :: ['\n']) := by
    rw [hlines, String.toList_append, String.toList_append, List.append_assoc]
    rfl
  rw [AreLines, hchars, Scanner.advance_long rfl hplain, Scanner.advance_feed,
    String.ofList_toList]
  rfl

/-! ## Constants -/

/-- What a constant is bound to: a text, or several in a tuple. -/
inductive Part
  | text (s : String)
  | names (ss : List String)

namespace Part

/-- A part as it is shown. -/
def shown : Part → String
  | text s => Text.quote s
  | names ss => nameTuple ss

/-- A part as it is written. -/
def row : Part → List Lexeme
  | text s => [.quote s]
  | names ss => tupleRow ss

/-- A part as it is read. -/
def expr : Part → Expr
  | text s => .text s
  | names ss => .tuple (ss.map .text)

/-- The value of a part. -/
def value : Part → Value
  | text s => .str s
  | names ss => .tuple (ss.map .str)

theorem written_row (p : Part) : written p.row = p.shown.toList := by
  cases p with
  | text s => simp [row, shown]
  | names ss => exact written_tupleRow ss

theorem legible_row (p : Part) : Legible p.row := by
  cases p with
  | text s => exact .last (Lexeme.quote_ok s)
  | names ss => exact legible_tupleRow ss

theorem isPhrase_row (p : Part) : IsPhrase (spelled p.row) p.expr := by
  cases p with
  | text s => exact isPhrase_text s
  | names ss => exact isPhrase_tuple ss

theorem eval_expr (p : Part) (env : Bindings) : p.expr.eval env = some p.value := by
  cases p with
  | text s => rfl
  | names ss =>
    rw [expr, Expr.eval, evalAll_text]
    rfl

end Part

/-- The constants of a compiled model, by what their names end in. -/
def parts (c : Compiled) : List (String × Part) :=
  [("NAME", .text c.model), ("SCHEMA", .text c.table), ("PK", .text c.keyName),
    ("CREATE_ARGS", .names c.arguments.create), ("UPDATE_ARGS", .names c.arguments.update),
    ("DELETE", .text c.delete)]

theorem parts_endings (c : Compiled) : (parts c).map Prod.fst = endings := rfl

/-- The constants of a compiled model by their names. -/
def constants (c : Compiled) : List (String × Part) :=
  (parts c).map fun p => (constant (constantPrefix c.model) p.1, p.2)

/-- The tokens of a constant. -/
def constantTokens (p : String × Part) : List Token :=
  .name p.1 :: .sign '=' :: (spelled p.2.row ++ [.newline])

/-- The tokens of the constants of a compiled model, behind an empty line and a comment. -/
def modelTokens (c : Compiled) : List Token :=
  .newline :: .newline :: (constants c).flatMap constantTokens

variable {c : Compiled}

theorem isName_of_mem_constants (hmodel : ∀ ch ∈ c.model.toList, IsPlain ch)
    {p : String × Part} (hp : p ∈ constants c) : IsName p.1 := by
  obtain ⟨q, hq, rfl⟩ := List.mem_map.mp hp
  exact isName_constant hmodel (parts_endings c ▸ List.mem_map_of_mem hq)

theorem areLines_constant {p : String × Part} (hp : IsName p.1) {line : String}
    (hline : line = p.1 ++ " = " ++ p.2.shown) : AreLines [line] (constantTokens p) := by
  have hrow : line.toList =
      written (.name p.1 :: .blank :: .sign '=' :: .blank :: p.2.row) := by
    rw [hline]
    simp [Part.written_row]
  refine areLines_row hrow ?_ nofun
  exact .solid hp rfl (.blank (.sign (by decide) (.blank p.2.legible_row)))

theorem areLines_constantLines (hmodel : ∀ ch ∈ c.model.toList, IsPlain ch) :
    AreLines (constantLines c) (modelTokens c) := by
  -- the comment holds the name of the model, so it is a line of its own only for a plain name
  have hcomment : AreLines ["# " ++ c.model] [.newline] := by
    have hplain : ∀ ch ∈ ' ' :: c.model.toList, ch ≠ '\n' ∧ Scanner.isForeign ch = false := by
      intro ch hch
      have hle : 32 ≤ ch.toNat := by
        rcases List.mem_cons.mp hch with rfl | hch
        · decide
        · exact (hmodel ch hch).le_toNat
      refine ⟨?_, ?_⟩
      · rintro rfl
        exact absurd hle (by decide)
      · have hreturn : ch ≠ '\r' := by rintro rfl; exact absurd hle (by decide)
        have hnul : ch ≠ '\x00' := by rintro rfl; exact absurd hle (by decide)
        simp [Scanner.isForeign, hreturn, hnul]
    refine areLines_singleton ?_
    rw [String.toList_append]
    exact Scanner.advance_comment hplain
  have hconstants : AreLines
      ((constants c).flatMap fun p => [p.1 ++ " = " ++ p.2.shown])
      ((constants c).flatMap constantTokens) :=
    AreLines.flatMap fun p hp => areLines_constant (isName_of_mem_constants hmodel hp) rfl
  exact areLines_empty.cons (hcomment.cons hconstants)

theorem areStatements_modelTokens (hmodel : ∀ ch ∈ c.model.toList, IsPlain ch) :
    AreStatements (modelTokens c) ((constants c).map fun p => ⟨some p.1, p.2.expr⟩) := by
  have hconstants : AreStatements ((constants c).flatMap constantTokens)
      ((constants c).map fun p => ⟨some p.1, p.2.expr⟩) := by
    rw [List.map_eq_flatMap]
    exact AreStatements.flatMap fun p hp =>
      areStatements_assign (isName_of_mem_constants hmodel hp) p.2.isPhrase_row
  exact areStatements_newline.append (areStatements_newline.append hconstants)

/-! ## The table -/

/-- The keys of the entry of a model, with what the constants end in that they refer to. -/
def references : List (String × String) :=
  [("schema", "SCHEMA"), ("primary_key", "PK"), ("create_args", "CREATE_ARGS"),
    ("update_args", "UPDATE_ARGS"), ("delete", "DELETE")]

/-- A reference to a constant as it is written. -/
def referenceRow (stem : String) (r : String × String) : List Lexeme :=
  [.text Text.doubleQuote r.1, .sign ':', .blank, .name (constant stem r.2), .sign ',']

/-- The tokens of a reference to a constant. -/
def referenceTokens (stem : String) (r : String × String) : List Token :=
  .indent :: .text r.1 :: .sign ':' ::
    ([Token.name (constant stem r.2)] ++ [Token.sign ',', Token.newline])

/-- The entry of a model as it is read. -/
def entryExpr (c : Compiled) : Expr :=
  .dict (references.map fun r => (.text r.1, .name (constant (constantPrefix c.model) r.2)))

/-- The tokens of the entry of a model. -/
def entryTokens (c : Compiled) : List Token :=
  .sign Scanner.openBrace :: .newline ::
    (references.flatMap (referenceTokens (constantPrefix c.model)) ++ [Token.indent] ++
      [Token.sign Scanner.closeBrace])

/-- The tokens of a model in the table. -/
def tableTokens (c : Compiled) : List Token :=
  .indent :: .text c.model :: .sign ':' :: (entryTokens c ++ [Token.sign ',', Token.newline])

theorem isName_of_mem_references (hmodel : ∀ ch ∈ c.model.toList, IsPlain ch)
    {r : String × String} (hr : r ∈ references) :
    IsName (constant (constantPrefix c.model) r.2) := by
  have hall : ∀ r ∈ references, r.2 ∈ endings := by decide
  exact isName_constant hmodel (hall r hr)

theorem areLines_reference (hmodel : ∀ ch ∈ c.model.toList, IsPlain ch)
    {r : String × String} (hr : r ∈ references) :
    AreLines [entryLine (constantPrefix c.model) r.1 r.2]
      (referenceTokens (constantPrefix c.model) r) := by
  -- the keys need no escapes, so they are written as they are
  have hkeys : ∀ r ∈ references,
      (Lexeme.text Text.doubleQuote r.1).chars = '"' :: r.1.toList ++ ['"'] := by decide
  have hblanks : "        \"".toList = List.replicate 8 ' ' ++ ['"'] := rfl
  have hcolon : "\": ".toList = ['"', ':', ' '] := rfl
  have hline : entryLine (constantPrefix c.model) r.1 r.2 =
      "        \"" ++ r.1 ++ "\": " ++ constantPrefix c.model ++ "_" ++ r.2 ++ "," := rfl
  have hrow : (entryLine (constantPrefix c.model) r.1 r.2).toList =
      List.replicate 8 ' ' ++ written (referenceRow (constantPrefix c.model) r) := by
    simp only [hline, String.toList_append, hblanks, hcolon, referenceRow, written_cons,
      written_nil, hkeys r hr, Lexeme.chars_sign, Lexeme.chars_blank, Lexeme.chars_name,
      toList_constant, List.append_assoc, List.cons_append, List.nil_append]
    rfl
  refine areLines_indented 7 hrow ?_
  exact .solid rfl rfl (.sign (by decide) (.blank
    (.solid (isName_of_mem_references hmodel hr) rfl (.sign (by decide) .nil))))

/-- The line that opens the entry of a model as it is written. -/
def openingRow (c : Compiled) : List Lexeme :=
  [.quote c.model, .sign ':', .blank, .sign Scanner.openBrace]

/-- The line that closes the entry of a model as it is written. -/
def closingRow : List Lexeme := [.sign Scanner.closeBrace, .sign ',']

theorem areLines_tableLines (hmodel : ∀ ch ∈ c.model.toList, IsPlain ch) :
    AreLines (tableLines c) (tableTokens c) := by
  have hopening : AreLines ["    " ++ Text.quote c.model ++ ": \x7b"]
      (Token.indent :: (spelled (openingRow c) ++ [Token.newline])) := by
    have hblanks : "    ".toList = List.replicate 4 ' ' := rfl
    have hbrace : ": \x7b".toList = [':', ' ', Scanner.openBrace] := rfl
    have hrow : ("    " ++ Text.quote c.model ++ ": \x7b").toList =
        List.replicate 4 ' ' ++ written (openingRow c) := by
      rw [String.toList_append, String.toList_append, hblanks, hbrace, List.append_assoc]
      simp [openingRow]
    exact areLines_indented 3 hrow
      (.solid (Lexeme.quote_ok _) rfl (.sign (by decide) (.blank (.sign (by decide) .nil))))
  have hreferences : AreLines
      (references.flatMap fun r => [entryLine (constantPrefix c.model) r.1 r.2])
      (references.flatMap (referenceTokens (constantPrefix c.model))) :=
    AreLines.flatMap fun r hr => areLines_reference hmodel hr
  have hclosing : AreLines ["    \x7d,"]
      (Token.indent :: (spelled closingRow ++ [Token.newline])) := by
    have hrow : "    \x7d,".toList = List.replicate 4 ' ' ++ written closingRow := rfl
    exact areLines_indented 3 hrow (.sign (by decide) (.sign (by decide) .nil))
  have htokens : tableTokens c = (Token.indent :: (spelled (openingRow c) ++ [Token.newline])) ++
      (references.flatMap (referenceTokens (constantPrefix c.model)) ++
        Token.indent :: (spelled closingRow ++ [Token.newline])) := by
    simp [tableTokens, entryTokens, openingRow, closingRow]
  rw [htokens]
  exact hopening.cons (hreferences.append hclosing)

theorem areEntries_tableTokens (hmodel : ∀ ch ∈ c.model.toList, IsPlain ch) :
    AreEntries (tableTokens c) [(.text c.model, entryExpr c)] := by
  have hreferences : AreEntries (references.flatMap (referenceTokens (constantPrefix c.model)))
      (references.map fun r => (.text r.1, .name (constant (constantPrefix c.model) r.2))) :=
    AreEntries.flatMap fun r hr =>
      areEntries_line r.1 (isPhrase_name (isName_of_mem_references hmodel hr))
  exact areEntries_line c.model (isPhrase_dict hreferences (.inr rfl))

/-! ## The module -/

variable {cs : List Compiled}

/-- The tokens of the table of several models, which is a mapping. -/
def mappingTokens (cs : List Compiled) : List Token :=
  .sign Scanner.openBrace :: .newline ::
    (cs.flatMap tableTokens ++ [] ++ [Token.sign Scanner.closeBrace])

/-- The tokens of the module of several models. -/
def moduleTokens (cs : List Compiled) : List Token :=
  .text heading :: .newline :: (cs.flatMap modelTokens ++ (Token.newline :: .newline ::
    .name "MODELS" :: .sign '=' :: (mappingTokens cs ++ [Token.newline])))

/-- The statements of the module of several models. -/
def moduleStatements (cs : List Compiled) : List Statement :=
  ⟨none, .text heading⟩ :: ((cs.flatMap constants).map (fun p => ⟨some p.1, p.2.expr⟩) ++
    [⟨some "MODELS", .dict (cs.map fun c => (.text c.model, entryExpr c))⟩])

/-- The line that opens the table as it is written. -/
def modelsRow : List Lexeme :=
  [.name "MODELS", .blank, .sign '=', .blank, .sign Scanner.openBrace]

theorem areLines_lines (hmodels : ∀ c ∈ cs, ∀ ch ∈ c.model.toList, IsPlain ch) :
    AreLines (lines cs) (moduleTokens cs) := by
  have hconstants : AreLines (cs.flatMap constantLines) (cs.flatMap modelTokens) :=
    AreLines.flatMap fun c hc => areLines_constantLines (hmodels c hc)
  have hopening : AreLines ["MODELS = \x7b"] (spelled modelsRow ++ [Token.newline]) := by
    have hrow : "MODELS = \x7b".toList = written modelsRow := rfl
    exact areLines_row hrow (.solid isName_models rfl
      (.blank (.sign (by decide) (.blank (.sign (by decide) .nil))))) nofun
  have htable : AreLines (cs.flatMap tableLines) (cs.flatMap tableTokens) :=
    AreLines.flatMap fun c hc => areLines_tableLines (hmodels c hc)
  have hclosing : AreLines ["\x7d"] [.sign Scanner.closeBrace, .newline] := areLines_singleton rfl
  have hlines : AreLines (lines cs) _ :=
    ((areLines_header.append hconstants).append
      (areLines_empty.cons (areLines_empty.cons hopening))).append htable |>.append hclosing
  convert hlines using 1
  simp [moduleTokens, mappingTokens, modelsRow]

theorem areStatements_moduleTokens (hmodels : ∀ c ∈ cs, ∀ ch ∈ c.model.toList, IsPlain ch) :
    AreStatements (moduleTokens cs) (moduleStatements cs) := by
  have hconstants : AreStatements (cs.flatMap modelTokens)
      ((cs.flatMap constants).map fun p => ⟨some p.1, p.2.expr⟩) := by
    rw [List.map_flatMap]
    exact AreStatements.flatMap fun c hc => areStatements_modelTokens (hmodels c hc)
  have hentries : AreEntries (cs.flatMap tableTokens)
      (cs.map fun c => (.text c.model, entryExpr c)) :=
    AreEntries.flatMap fun c hc => areEntries_tableTokens (hmodels c hc)
  have htable := areStatements_assign isName_models (isPhrase_dict hentries (.inl rfl))
  exact (areStatements_text heading).append (hconstants.append
    (areStatements_newline.append (areStatements_newline.append htable)))

/-- The module of models with plain names is read as its statements. -/
theorem bindings_lines (hmodels : ∀ c ∈ cs, ∀ ch ∈ c.model.toList, IsPlain ch) :
    bindings (unlines (lines cs)) = (moduleStatements cs).foldlM Statement.exec [] := by
  have htokens : tokens (unlines (lines cs)) = some (moduleTokens cs) := by
    rw [tokens, areLines_lines hmodels]
    simp [Scanner.close]
  rw [bindings, htokens, Option.bind_eq_bind, Option.bind_some,
    (areStatements_moduleTokens hmodels).statements]
  rfl

/-! ## Bindings -/

/-- What the constants of compiled models are bound to, the last one first. -/
def bound (cs : List Compiled) : Bindings :=
  ((cs.flatMap constants).map fun p => (p.1, p.2.value)).reverse

/-- The entry of a compiled model in the table of all models. -/
def entry (c : Compiled) : List (String × Value) :=
  [("schema", .str c.table), ("primary_key", .str c.keyName),
    ("create_args", .tuple (c.arguments.create.map .str)),
    ("update_args", .tuple (c.arguments.update.map .str)), ("delete", .str c.delete)]

/-- The table of all models. -/
def table (cs : List Compiled) : Value :=
  .dict (Dict.ofStrings (cs.map fun c => (c.model, .dict (Dict.ofStrings (entry c)))))

/-- The constants of a compiled model are bound to what the model has. -/
structure Binds (env : Bindings) (c : Compiled) : Prop where
  name : env.lookup (constant (constantPrefix c.model) "NAME") = some (.str c.model)
  schema : env.lookup (constant (constantPrefix c.model) "SCHEMA") = some (.str c.table)
  key : env.lookup (constant (constantPrefix c.model) "PK") = some (.str c.keyName)
  create : env.lookup (constant (constantPrefix c.model) "CREATE_ARGS") =
    some (.tuple (c.arguments.create.map .str))
  update : env.lookup (constant (constantPrefix c.model) "UPDATE_ARGS") =
    some (.tuple (c.arguments.update.map .str))
  delete : env.lookup (constant (constantPrefix c.model) "DELETE") = some (.str c.delete)

/-- If no two models share a prefix, no two constants have the same name. -/
theorem nodup_constants (h : (cs.map fun c => constantPrefix c.model).Nodup) :
    ((cs.flatMap constants).map Prod.fst).Nodup := by
  have hnames (c : Compiled) : (constants c).map Prod.fst =
      endings.map (constant (constantPrefix c.model)) := rfl
  rw [List.map_flatMap, List.nodup_flatMap]
  refine ⟨fun c _ => ?_, ?_⟩
  -- within a model the endings differ, between models the prefixes do
  · rw [hnames]
    refine List.Nodup.map_on (fun e he e' he' heq => ?_) (by decide)
    exact (constant_inj he he' heq).2
  · refine (List.pairwise_map.mp h).imp fun {c d} hne => ?_
    show List.Disjoint ((constants c).map Prod.fst) ((constants d).map Prod.fst)
    rw [hnames, hnames]
    intro x hc hd
    obtain ⟨e, he, rfl⟩ := List.mem_map.mp hc
    obtain ⟨e', he', heq⟩ := List.mem_map.mp hd
    exact hne (constant_inj he' he heq).1.symm

/-- If no two models share a prefix, no two have the same name. -/
theorem nodup_models (h : (cs.map fun c => constantPrefix c.model).Nodup) :
    (cs.map Compiled.model).Nodup := by
  have hprefixes : ((cs.map Compiled.model).map constantPrefix).Nodup := by
    rw [List.map_map]
    exact h
  exact hprefixes.of_map

theorem binds_of_lookup {env : Bindings} {c : Compiled}
    (h : ∀ p ∈ constants c, env.lookup p.1 = some p.2.value) : Binds env c where
  name := h (_, .text c.model) (.head _)
  schema := h (_, .text c.table) (.tail _ (.head _))
  key := h (_, .text c.keyName) (.tail _ (.tail _ (.head _)))
  create := h (_, .names c.arguments.create) (.tail _ (.tail _ (.tail _ (.head _))))
  update := h (_, .names c.arguments.update) (.tail _ (.tail _ (.tail _ (.tail _ (.head _)))))
  delete := h (_, .text c.delete) (.tail _ (.tail _ (.tail _ (.tail _ (.tail _ (.head _))))))

/-- Where the constants of a model are bound to what the model has, the entry of the model finds
it there. -/
theorem eval_entryExpr {env : Bindings} {c : Compiled} (h : Binds env c) :
    (entryExpr c).eval env = some (.dict (Dict.ofStrings (entry c))) := by
  have hvalues : (references.map fun r =>
      (r.1, (env.lookup (constant (constantPrefix c.model) r.2)).getD .null)) = entry c := by
    simp only [references, List.map_cons, List.map_nil, h.schema, h.key, h.create, h.update,
      h.delete]
    rfl
  have hbound : ∀ r ∈ references, (env.lookup (constant (constantPrefix c.model) r.2)).isSome := by
    simp only [references, List.forall_mem_cons, h.schema, h.key, h.create, h.update, h.delete]
    simp
  rw [← hvalues]
  refine eval_dict env Prod.fst _ _ (by decide) fun r hr => ?_
  obtain ⟨v, hv⟩ := Option.isSome_iff_exists.mp (hbound r hr)
  rw [Expr.eval, hv]
  rfl

/-- What the statements of a module bind, if no two models share a prefix. -/
theorem foldlM_moduleStatements (h : (cs.map fun c => constantPrefix c.model).Nodup) :
    (moduleStatements cs).foldlM Statement.exec [] = some (("MODELS", table cs) :: bound cs) ∧
      ∀ c ∈ cs, Binds (bound cs) c := by
  have hbinds : ∀ c ∈ cs, Binds (bound cs) c := by
    intro c hc
    refine binds_of_lookup fun p hp => lookup_of_mem ?_ ?_
    · have hnames : ((bound cs).map Prod.fst) = ((cs.flatMap constants).map Prod.fst).reverse := by
        simp [bound, Function.comp_def]
      rw [hnames]
      exact List.nodup_reverse.mpr (nodup_constants h)
    · have hmem : p ∈ cs.flatMap constants := List.mem_flatMap.mpr ⟨c, hc, hp⟩
      exact List.mem_reverse.mpr (List.mem_map.mpr ⟨p, hmem, rfl⟩)
  have htable : (Expr.dict (cs.map fun c => (.text c.model, entryExpr c))).eval (bound cs) =
      some (table cs) :=
    eval_dict (bound cs) Compiled.model entryExpr _ (nodup_models h) fun c hc =>
      eval_entryExpr (hbinds c hc)
  refine ⟨?_, hbinds⟩
  have hheading : Statement.exec [] ⟨none, .text heading⟩ = some [] := rfl
  rw [moduleStatements, List.foldlM_cons, hheading, Option.bind_eq_bind, Option.bind_some,
    List.foldlM_append, exec_assigns _ _ _ (fun p _ env => p.2.eval_expr env), List.append_nil,
    ← bound, Option.bind_eq_bind, Option.bind_some, List.foldlM_cons, Statement.exec, htable]
  rfl

theorem module?_eq_ok {text : String} :
    module? cs = .ok text ↔
      (cs.map fun c => constantPrefix c.model).Nodup ∧ text = unlines (lines cs) := by
  rw [← sharedPrefixes_isEmpty_iff, module?]
  split_ifs with h
  · simp [h, eq_comm]
  · simp [h]

/-- **Generated modules decode back.** The module of models with plain names, read as source,
binds the constants of each model to what the model has, and `MODELS` to the table of all
models, in their order. -/
theorem module_decodes {text : String}
    (hmodels : ∀ c ∈ cs, ∀ ch ∈ c.model.toList, IsPlain ch) (h : module? cs = .ok text) :
    ∃ env, bindings text = some env ∧ (∀ c ∈ cs, Binds env c) ∧
      env.lookup "MODELS" = some (table cs) := by
  obtain ⟨hprefixes, rfl⟩ := module?_eq_ok.mp h
  obtain ⟨hrun, hbinds⟩ := foldlM_moduleStatements hprefixes
  refine ⟨("MODELS", table cs) :: bound cs, ?_, fun c hc => ?_, List.lookup_cons_self⟩
  · rw [bindings_lines hmodels, hrun]
  · have hlater (ending : String) :
        List.lookup (constant (constantPrefix c.model) ending) (("MODELS", table cs) :: bound cs) =
          (bound cs).lookup (constant (constantPrefix c.model) ending) := by
      have hne := beq_false_of_ne (constant_ne_models (constantPrefix c.model) ending)
      rw [List.lookup_cons, hne]
    have hc := hbinds c hc
    exact {
      name := (hlater _).trans hc.name
      schema := (hlater _).trans hc.schema
      key := (hlater _).trans hc.key
      create := (hlater _).trans hc.create
      update := (hlater _).trans hc.update
      delete := (hlater _).trans hc.delete }

/-- A list with one field, which has a default with quotes, a backslash and an end of a line. -/
def auditSource : Value :=
  .list [.tuple [.str "line", .str "Text", .dict [(.str "default", .str "'a' \"b\" \\\n")]]]

/-- What the list is compiled to under a name that comes before that of the sample. -/
def auditLog : Compiled where
  model := "auditLog"
  table := "create table if not exists auditLog (line text default '''a'' \"b\" \\\n' not null);"
  key := none
  arguments := ⟨[], ["line"]⟩
  delete := "delete from auditLog where =?1;"
  definition := ⟨"auditLog", [{ Field.plain "line" .text false with
    hasDefault := true, default := some (.str "'a' \"b\" \\\n") }]⟩

theorem compile_auditSource (s : Session) :
    ((Compiler.compile .default auditSource (.str "auditLog")).run s).1 = .ok auditLog := by
  rw [(Compiler.compile_answers _ _ _).outcome s]
  exact Except.eq_ok_of_toOption (by decide +kernel)

/-- Two models that share no prefix, not in the order of their names. -/
def pair : List Compiled := [visits, auditLog]

theorem module?_pair : module? pair = .ok (unlines (lines pair)) :=
  module?_eq_ok.mpr ⟨by decide, rfl⟩

theorem module_decodes_visits :
    module? pair = .ok (unlines (lines pair)) ∧
      ∃ env, bindings (unlines (lines pair)) = some env ∧ Binds env visits ∧ Binds env auditLog ∧
        env.lookup "VISITS_DELETE" = some (.str "delete from visits where id=?1;") ∧
        env.lookup "AUDIT_LOG_UPDATE_ARGS" = some (.tuple [.str "line"]) ∧
        env.lookup "MODELS" = some (.dict [
          (.str "visits", .dict (Dict.ofStrings (entry visits))),
          (.str "auditLog", .dict (Dict.ofStrings (entry auditLog)))]) := by
  have hall : pair.all fun c => c.model.toList.all fun ch => decide (IsPlain ch) := by decide
  have hmodels : ∀ c ∈ pair, ∀ ch ∈ c.model.toList, IsPlain ch := by
    intro c hc ch hch
    exact of_decide_eq_true (List.all_eq_true.mp (List.all_eq_true.mp hall c hc) ch hch)
  obtain ⟨env, hrun, hbinds, htable⟩ := module_decodes hmodels module?_pair
  have hvisits := hbinds visits List.mem_cons_self
  have haudit := hbinds auditLog (List.mem_cons_of_mem _ List.mem_cons_self)
  exact ⟨module?_pair, env, hrun, hvisits, haudit, hvisits.delete, haudit.update, htable⟩

end Relvar.Generated
