/-
The lines of a generated module. Quoted texts stand on one line, because what ends a line is
escaped in them, and so do the names of constants, because what is no part of a word is left out
of them and capitals end no line. Only the comment on a model holds the name of the model as it
is. So a module has the lines that its models prescribe, and one more for each place at which
the name of a model ends a line.
-/
import Relvar.Proofs.Generated.Module
import Relvar.Proofs.Sql.Lexeme

set_option autoImplicit false

namespace Relvar.Generated

/-! ## Ends of lines -/

/-- Whether a line of source ends at a character. -/
def endsLine (c : Char) : Bool := c = '\n' || c = '\r'

/-- How often a line ends in a text. -/
def lineEnds (s : String) : Nat := s.toList.countP endsLine

/-- A text in which no line ends. -/
def Unbroken (s : String) : Prop := ∀ c ∈ s.toList, endsLine c = false

instance : DecidablePred Unbroken := fun s =>
  List.decidableBAll (fun c => endsLine c = false) s.toList

theorem lineEnds_eq_zero_iff {s : String} : lineEnds s = 0 ↔ Unbroken s := by
  simp [lineEnds, Unbroken, List.countP_eq_zero]

theorem lineEnds_append (s t : String) : lineEnds (s ++ t) = lineEnds s + lineEnds t := by
  rw [lineEnds, String.toList_append, List.countP_append]
  rfl

theorem unbroken_append {s t : String} : Unbroken (s ++ t) ↔ Unbroken s ∧ Unbroken t := by
  rw [← lineEnds_eq_zero_iff, ← lineEnds_eq_zero_iff, ← lineEnds_eq_zero_iff, lineEnds_append]
  omega

/-- How often a line ends in several texts. -/
def innerEnds (ls : List String) : Nat := (ls.flatMap String.toList).countP endsLine

theorem innerEnds_cons (l : String) (ls : List String) :
    innerEnds (l :: ls) = lineEnds l + innerEnds ls := by
  rw [innerEnds, List.flatMap_cons, List.countP_append]
  rfl

theorem innerEnds_append (ls ms : List String) :
    innerEnds (ls ++ ms) = innerEnds ls + innerEnds ms := by
  rw [innerEnds, List.flatMap_append, List.countP_append]
  rfl

theorem innerEnds_eq_zero_iff {ls : List String} : innerEnds ls = 0 ↔ ∀ l ∈ ls, Unbroken l := by
  rw [innerEnds, List.countP_eq_zero, List.forall_mem_flatMap]
  simp only [Unbroken, Bool.not_eq_true]

/-- A line ends once behind each of several lines, and as often as one ends in them. -/
theorem lineEnds_unlines (ls : List String) :
    lineEnds (unlines ls) = ls.length + innerEnds ls := by
  induction ls with
  | nil => rfl
  | cons l ls ih =>
    have hsplit : unlines (l :: ls) = l ++ "\n" ++ unlines ls := by
      rw [← String.toList_inj]
      simp [toList_unlines]
    have hend : lineEnds "\n" = 1 := rfl
    rw [hsplit, lineEnds_append, lineEnds_append, hend, ih, List.length_cons, innerEnds_cons]
    omega

/-! ## Quoted texts -/

theorem endsLine_digitChar {d : Nat} (h : d < 16) : endsLine d.digitChar = false := by
  have hall : ∀ d < 16, endsLine d.digitChar = false := by decide
  exact hall d h

theorem endsLine_hexPadded {width n : Nat} (hwidth : 0 < width) (hn : n < Nat.pow 16 width)
    {d : Char} (hd : d ∈ Text.hexPadded width n) : endsLine d = false := by
  obtain ⟨ds, -, hds, -, hpadded⟩ := Source.Scanner.hexPadded_digits hwidth hn
  rw [hpadded] at hd
  obtain ⟨k, hk, rfl⟩ := List.mem_map.mp hd
  exact endsLine_digitChar (hds k hk)

theorem endsLine_codeEscape (c : Char) {d : Char} (hd : d ∈ Text.codeEscape c.toNat) :
    endsLine d = false := by
  have hescape {letter : Char} {width : Nat} (hletter : endsLine letter = false)
      (hwidth : 0 < width) (hc : c.toNat < Nat.pow 16 width)
      (hd : d ∈ '\\' :: letter :: Text.hexPadded width c.toNat) : endsLine d = false := by
    rcases List.mem_cons.mp hd with rfl | hd
    · rfl
    · rcases List.mem_cons.mp hd with rfl | hd
      · exact hletter
      · exact endsLine_hexPadded hwidth hc hd
  -- the number of digits leaves space for the code point
  have hmax : c.toNat < Nat.pow 16 8 := by
    have hlt : c.toNat < UInt32.size := c.val.toNat_lt
    exact hlt
  unfold Text.codeEscape at hd
  split_ifs at hd with htwo hfour
  · exact hescape rfl (show 0 < 2 by decide) htwo hd
  · exact hescape rfl (show 0 < 4 by decide) hfour hd
  · exact hescape rfl (show 0 < 8 by decide) hmax hd

/-- However a character stands between quotes, no line ends there. -/
theorem endsLine_quotedChar {q : Char} (hq : endsLine q = false) (c : Char) {d : Char}
    (hd : d ∈ Text.quotedChar q c) : endsLine d = false := by
  have hpair {x : Char} (hx : endsLine x = false) (hd : d ∈ ['\\', x]) : endsLine d = false := by
    rcases List.mem_cons.mp hd with rfl | hd
    · rfl
    · rwa [List.mem_singleton.mp hd]
  unfold Text.quotedChar at hd
  -- one case for each way that a character is shown
  split_ifs at hd with hself hfeed hreturn htab hprint
  · rcases (show c = q ∨ c = '\\' by simpa using hself) with rfl | rfl
    · exact hpair hq hd
    · exact hpair rfl hd
  · exact hpair rfl hd
  · exact hpair rfl hd
  · exact hpair rfl hd
  · rw [List.mem_singleton.mp hd]
    simp [endsLine, hfeed, hreturn]
  · exact endsLine_codeEscape c hd

/-- A quoted text stands on one line. -/
theorem unbroken_quote (s : String) : Unbroken (Text.quote s) := by
  have hq : endsLine (Text.quoteFor s.toList) = false := by
    unfold Text.quoteFor
    split <;> rfl
  intro d hd
  rw [Text.quote, String.toList_ofList, Text.quoted, List.cons_append] at hd
  rcases List.mem_cons.mp hd with rfl | hd
  · exact hq
  · rcases List.mem_append.mp hd with hd | hd
    · obtain ⟨c, -, hc⟩ := List.mem_flatMap.mp hd
      exact endsLine_quotedChar hq c hc
    · rwa [List.mem_singleton.mp hd]

theorem unbroken_intercalate {sep : String} {ss : List String} (hsep : Unbroken sep)
    (hss : ∀ s ∈ ss, Unbroken s) : Unbroken (sep.intercalate ss) := by
  intro d hd
  rw [String.toList_intercalate] at hd
  rcases Sql.mem_intercalate hd with hd | ⟨ls, hls, hd⟩
  · exact hsep d hd
  · obtain ⟨s, hs, rfl⟩ := List.mem_map.mp hls
    exact hss s hs d hd

/-- Names in a tuple stand on one line. -/
theorem unbroken_nameTuple (ss : List String) : Unbroken (nameTuple ss) := by
  have hquoted : ∀ s ∈ ss.map Text.quote, Unbroken s := by
    intro s hs
    obtain ⟨t, -, rfl⟩ := List.mem_map.mp hs
    exact unbroken_quote t
  unfold nameTuple tupled
  split
  · next s hs =>
    have hs : Unbroken s := hquoted s (hs ▸ List.mem_singleton_self s)
    exact unbroken_append.mpr ⟨unbroken_append.mpr ⟨by decide, hs⟩, by decide⟩
  · have hcomma : Unbroken ", " := by decide
    have hitems := unbroken_intercalate hcomma hquoted
    exact unbroken_append.mpr ⟨unbroken_append.mpr ⟨by decide, hitems⟩, by decide⟩

/-! ## Prefixes -/

theorem endsLine_ofNat {n : Nat} (h : 65 ≤ n) : endsLine (Char.ofNat n) = false := by
  -- a number that is no character stands for the first one of all
  by_cases hvalid : n.isValidChar
  · have hcode : (Char.ofNat n).toNat = n := by
      rw [Char.ofNat, dif_pos hvalid]
      rfl
    have hne {c : Char} (hc : c.toNat < 65) : Char.ofNat n ≠ c := by
      rintro rfl
      omega
    have hfeed : Char.ofNat n ≠ '\n' := hne (by decide)
    have hreturn : Char.ofNat n ≠ '\r' := hne (by decide)
    simp [endsLine, hfeed, hreturn]
  · rw [Char.ofNat, dif_neg hvalid]
    rfl

/-- The upper case of a character that ends no line ends none. Beyond the first 128 characters
it lies behind the letter A. -/
theorem endsLine_upperChars {c : Char} (hc : endsLine c = false) {d : Char}
    (hd : d ∈ Text.upperChars c) : endsLine d = false := by
  have hruns : ∀ r ∈ Text.upperRuns, (65 : Int) ≤ r.first + r.distance := by decide +kernel
  have hexpansions : ∀ e ∈ Text.upperExpansions, ∀ n ∈ e.2, 65 ≤ n := by decide +kernel
  have hupper : ∀ c : Char, c.toNat < 128 → endsLine c = false → endsLine c.toUpper = false :=
    fun c hc => narrow_forall (P := fun c => endsLine c = false → endsLine c.toUpper = false)
      (by decide) hc
  unfold Text.upperChars at hd
  -- few characters are narrow, so all are tried; for the others the tables are looked through
  by_cases hnarrow : c.toNat < 128
  · rw [if_pos hnarrow, List.mem_singleton] at hd
    rw [hd]
    exact hupper c hnarrow hc
  · rw [if_neg hnarrow] at hd
    split at hd
    · next r hr =>
      have hmem := hruns r (List.mem_of_find?_eq_some hr)
      have hhas := List.find?_some hr
      simp only [Text.CaseRun.has, Bool.and_eq_true, decide_eq_true_eq] at hhas
      rw [List.mem_singleton.mp hd]
      exact endsLine_ofNat (by omega)
    · split at hd
      · next k ns he =>
        obtain ⟨n, hn, rfl⟩ := List.mem_map.mp hd
        exact endsLine_ofNat (hexpansions _ (List.mem_of_find?_eq_some he) n hn)
      · rwa [List.mem_singleton.mp hd]

theorem mem_stripLines {s : List Char} {c : Char} (h : c ∈ stripLines s) : c ∈ s := by
  cases hstrip : stripLines s with
  | nil => exact absurd (hstrip ▸ h) List.not_mem_nil
  | cons d v => exact (stripLines_cons hstrip).2 c (hstrip ▸ h)

/-- Whatever the name of a model is, the prefix of its constants stands on one line. -/
theorem unbroken_constantPrefix (model : String) : Unbroken (constantPrefix model) := by
  -- a character of a word is neither of the two that end a line
  have hword {c : Char} (hc : Text.isWord c = true) : endsLine c = false := by
    have hfeed : c ≠ '\n' := by
      rintro rfl
      exact absurd hc (by decide)
    have hreturn : c ≠ '\r' := by
      rintro rfl
      exact absurd hc (by decide)
    simp [endsLine, hfeed, hreturn]
  have hwords : ∀ c ∈ prefixWords model, endsLine c = false := by
    have hstripped : ∀ c ∈ stripLines (joinWords (separateWords model.toList)),
        endsLine c = false := by
      intro c hc
      rcases mem_joinWords (mem_stripLines hc) with ⟨-, hc⟩ | rfl
      · exact hword hc
      · rfl
    intro c hc
    simp only [prefixWords] at hc
    split_ifs at hc
    · rcases List.mem_append.mp hc with hc | hc
      · exact (show Unbroken "MODEL_" by decide) c hc
      · exact hstripped c hc
    · exact hstripped c hc
  intro d hd
  have hupper : (constantPrefix model).toList = Text.upper (prefixWords model) :=
    String.toList_ofList
  rw [hupper, Text.upper] at hd
  obtain ⟨c, hc, hd⟩ := List.mem_flatMap.mp hd
  exact endsLine_upperChars (hwords c hc) hd

/-! ## Lines -/

theorem unbroken_constantLine {stem suffix value : String} (hstem : Unbroken stem)
    (hsuffix : Unbroken suffix) (hvalue : Unbroken value) :
    Unbroken (constantLine stem suffix value) := by
  have hline : constantLine stem suffix value = stem ++ "_" ++ suffix ++ " = " ++ value := rfl
  rw [hline, unbroken_append, unbroken_append, unbroken_append, unbroken_append]
  exact ⟨⟨⟨⟨hstem, by decide⟩, hsuffix⟩, by decide⟩, hvalue⟩

theorem unbroken_entryLine {stem key suffix : String} (hstem : Unbroken stem)
    (hkey : Unbroken key) (hsuffix : Unbroken suffix) :
    Unbroken (entryLine stem key suffix) := by
  have hline : entryLine stem key suffix =
      "        \"" ++ key ++ "\": " ++ stem ++ "_" ++ suffix ++ "," := rfl
  rw [hline, unbroken_append, unbroken_append, unbroken_append, unbroken_append,
    unbroken_append, unbroken_append]
  exact ⟨⟨⟨⟨⟨⟨by decide, hkey⟩, by decide⟩, hstem⟩, by decide⟩, hsuffix⟩, by decide⟩

/-- The lines of the constants of a model are an empty line, the comment on the model, which
holds its name as it is, and six lines that end nowhere else. -/
theorem constantLines_eq (c : Compiled) :
    ∃ rest, constantLines c = "" :: ("# " ++ c.model) :: rest ∧ rest.length = 6 ∧
      ∀ l ∈ rest, Unbroken l := by
  have hstem := unbroken_constantPrefix c.model
  refine ⟨_, rfl, rfl, ?_⟩
  simp only [List.forall_mem_cons]
  exact ⟨unbroken_constantLine hstem (by decide) (unbroken_quote _),
    unbroken_constantLine hstem (by decide) (unbroken_quote _),
    unbroken_constantLine hstem (by decide) (unbroken_quote _),
    unbroken_constantLine hstem (by decide) (unbroken_nameTuple _),
    unbroken_constantLine hstem (by decide) (unbroken_nameTuple _),
    unbroken_constantLine hstem (by decide) (unbroken_quote _), nofun⟩

/-- The lines of a model in the table end nowhere else. -/
theorem unbroken_tableLines (c : Compiled) : ∀ l ∈ tableLines c, Unbroken l := by
  have hstem := unbroken_constantPrefix c.model
  have hopening : Unbroken ("    " ++ Text.quote c.model ++ ": \x7b") :=
    unbroken_append.mpr ⟨unbroken_append.mpr ⟨by decide, unbroken_quote _⟩, by decide⟩
  simp only [tableLines, List.forall_mem_cons]
  exact ⟨hopening, unbroken_entryLine hstem (by decide) (by decide),
    unbroken_entryLine hstem (by decide) (by decide),
    unbroken_entryLine hstem (by decide) (by decide),
    unbroken_entryLine hstem (by decide) (by decide),
    unbroken_entryLine hstem (by decide) (by decide), by decide, nofun⟩

/-! ## Counting -/

/-- Of the constants of a model, only the comment on it ends lines, as often as its name does. -/
theorem innerEnds_constantLines (c : Compiled) :
    innerEnds (constantLines c) = lineEnds c.model := by
  obtain ⟨rest, hlines, -, hrest⟩ := constantLines_eq c
  have hempty : lineEnds "" = 0 := rfl
  have hsign : lineEnds "# " = 0 := by decide
  rw [hlines, innerEnds_cons, innerEnds_cons, hempty, lineEnds_append, hsign,
    innerEnds_eq_zero_iff.mpr hrest]
  omega

variable {cs : List Compiled}

theorem innerEnds_flatMap_constantLines (cs : List Compiled) :
    innerEnds (cs.flatMap constantLines) = innerEnds (cs.map Compiled.model) := by
  induction cs with
  | nil => rfl
  | cons c cs ih =>
    rw [List.flatMap_cons, innerEnds_append, innerEnds_constantLines, ih, List.map_cons,
      innerEnds_cons]

theorem length_flatMap_block {f : Compiled → List String} {k : Nat}
    (h : ∀ c, (f c).length = k) (cs : List Compiled) : (cs.flatMap f).length = k * cs.length := by
  induction cs with
  | nil => rfl
  | cons c cs ih =>
    rw [List.flatMap_cons, List.length_append, h, ih, List.length_cons, Nat.mul_succ]
    omega

/-! ## Modules -/

/-- The lines that are prescribed for a module of so many models: five of the heading, eight of
the constants of each model, three in front of the table, seven of each model in the table, and
one that closes it. -/
def prescribedLines (models : Nat) : Nat := 5 + 8 * models + 3 + 7 * models + 1

theorem length_lines (cs : List Compiled) : (lines cs).length = prescribedLines cs.length := by
  have hconstants := length_flatMap_block (f := constantLines) (k := 8) (fun _ => rfl) cs
  have htable := length_flatMap_block (f := tableLines) (k := 7) (fun _ => rfl) cs
  simp only [lines, List.length_append, hconstants, htable, prescribedLines]
  rfl

theorem unbroken_header : ∀ l ∈ header, Unbroken l := by decide

theorem unbroken_opening : ∀ l ∈ ["", "", "MODELS = \x7b"], Unbroken l := by decide

theorem unbroken_closing : ∀ l ∈ ["\x7d"], Unbroken l := by decide

theorem innerEnds_lines (cs : List Compiled) :
    innerEnds (lines cs) = innerEnds (cs.map Compiled.model) := by
  have hheader : innerEnds header = 0 := innerEnds_eq_zero_iff.mpr unbroken_header
  have hopening : innerEnds ["", "", "MODELS = \x7b"] = 0 :=
    innerEnds_eq_zero_iff.mpr unbroken_opening
  have hclosing : innerEnds ["\x7d"] = 0 := innerEnds_eq_zero_iff.mpr unbroken_closing
  have htable : innerEnds (cs.flatMap tableLines) = 0 := by
    refine innerEnds_eq_zero_iff.mpr fun l hl => ?_
    obtain ⟨c, -, hl⟩ := List.mem_flatMap.mp hl
    exact unbroken_tableLines c l hl
  simp only [lines, innerEnds_append, hheader, hopening, hclosing, htable,
    innerEnds_flatMap_constantLines]
  omega

/-- Of the lines of a module, one ends early only in the comment on a model. -/
theorem unbroken_lines {l : String} (hl : l ∈ lines cs) :
    Unbroken l ∨ ∃ c ∈ cs, l = "# " ++ c.model := by
  simp only [lines, List.mem_append, List.mem_flatMap] at hl
  -- one case for each part of a module, in the order in which they are written
  rcases hl with (((hl | ⟨c, hc, hl⟩) | hl) | ⟨c, -, hl⟩) | hl
  · exact .inl (unbroken_header l hl)
  · obtain ⟨rest, hlines, -, hrest⟩ := constantLines_eq c
    rw [hlines] at hl
    rcases List.mem_cons.mp hl with rfl | hl
    · exact .inl (by decide)
    · rcases List.mem_cons.mp hl with rfl | hl
      · exact .inr ⟨c, hc, rfl⟩
      · exact .inl (hrest l hl)
  · exact .inl (unbroken_opening l hl)
  · exact .inl (unbroken_tableLines c l hl)
  · exact .inl (unbroken_closing l hl)

/-- The lines of a module are those that are prescribed, and one more for each place at which the
name of a model ends a line. -/
theorem lineEnds_module (cs : List Compiled) :
    lineEnds (unlines (lines cs)) =
      prescribedLines cs.length + innerEnds (cs.map Compiled.model) := by
  rw [lineEnds_unlines, length_lines, innerEnds_lines]

/-- **Lines of generated modules.** The lines of a module are those that are prescribed for so many
models, and one more for each place at which the name of a model ends a line. A line of the text
ends early only in the comment on a model, which holds the name as it is. So a module has the
lines that are prescribed exactly if the names of its models end no line; what a model has
besides its name, the names of fields and defaults, never makes a line. -/
theorem module_lines (cs : List Compiled) (text : String) (h : module? cs = .ok text) :
    lineEnds text = prescribedLines cs.length + innerEnds (cs.map Compiled.model) ∧
    (lineEnds text = prescribedLines cs.length ↔
      ∀ c ∈ cs, ∀ ch ∈ c.model.toList, ch ≠ '\n' ∧ ch ≠ '\r') ∧
    text = unlines (lines cs) ∧
    ∀ l ∈ lines cs, Unbroken l ∨ ∃ c ∈ cs, l = "# " ++ c.model := by
  obtain ⟨-, rfl⟩ := module?_eq_ok.mp h
  refine ⟨lineEnds_module cs, ?_, rfl, fun l hl => unbroken_lines hl⟩
  have hplain (c : Compiled) :
      Unbroken c.model ↔ ∀ ch ∈ c.model.toList, ch ≠ '\n' ∧ ch ≠ '\r' := by
    simp [Unbroken, endsLine]
  have hzero : innerEnds (cs.map Compiled.model) = 0 ↔ ∀ c ∈ cs, Unbroken c.model := by
    rw [innerEnds_eq_zero_iff, List.forall_mem_map]
  rw [lineEnds_module, ← forall₂_congr fun c _ => hplain c, ← hzero]
  omega

/-- The end of a line in a default makes no line. -/
theorem module_lines_visits :
    module? pair = .ok (unlines (lines pair)) ∧
      ((Compiler.compile .default auditSource (.str "auditLog")).run calmSession).1 =
        .ok auditLog ∧
      lineEnds (unlines (lines pair)) = 39 := by
  have hall : pair.all fun c => c.model.toList.all fun ch => ch ≠ '\n' ∧ ch ≠ '\r' := by decide
  have hplain : ∀ c ∈ pair, ∀ ch ∈ c.model.toList, ch ≠ '\n' ∧ ch ≠ '\r' := by
    intro c hc ch hch
    exact of_decide_eq_true (List.all_eq_true.mp (List.all_eq_true.mp hall c hc) ch hch)
  obtain ⟨-, hprescribed, -⟩ := module_lines pair _ module?_pair
  exact ⟨module?_pair, compile_auditSource _, hprescribed.mpr hplain⟩

/-- A list with the one field that is the key. -/
def keyField : Value :=
  .list [.tuple [.str "id", .str "Integer", .dict [(.str "primary_key", .bool true)]]]

/-- What the list is compiled to under a name with a second line, which reads as a statement. -/
def twoLines : Compiled where
  model := "User\nDEBUG = 'on'"
  table := "create table if not exists User\nDEBUG = 'on' (id integer primary key);"
  key := some ⟨"id", .supplied⟩
  arguments := ⟨["id"], []⟩
  delete := "delete from User\nDEBUG = 'on' where id=?1;"
  definition := ⟨"User\nDEBUG = 'on'",
    [{ Field.plain "id" .integer false with isPrimaryKey := true }]⟩

/-- The second line of the name is one more line of the module, and stands in it as a statement of
its own. -/
theorem module_twoLines :
    ((Compiler.compile .default keyField (.str "User\nDEBUG = 'on'")).run calmSession).1 =
        .ok twoLines ∧
      ∃ text, module? [twoLines] = .ok text ∧ lineEnds text = prescribedLines 1 + 1 ∧
        ∃ before rest, text = before ++ "\nDEBUG = 'on'\n" ++ rest := by
  have hmodule : module? [twoLines] = .ok (unlines (lines [twoLines])) :=
    module?_eq_ok.mpr ⟨by decide, rfl⟩
  refine ⟨?_, _, hmodule, lineEnds_module [twoLines], ?_⟩
  · rw [(Compiler.compile_answers _ _ _).outcome calmSession]
    exact Except.eq_ok_of_toOption (by decide +kernel)
  · obtain ⟨ls, hlines⟩ : ∃ ls,
        lines [twoLines] = (header ++ [""]) ++ ("# " ++ twoLines.model) :: ls := ⟨_, rfl⟩
    refine ⟨unlines (header ++ [""]) ++ "# User", unlines ls, ?_⟩
    rw [hlines, ← String.toList_inj]
    simp [toList_unlines, twoLines]

end Relvar.Generated
