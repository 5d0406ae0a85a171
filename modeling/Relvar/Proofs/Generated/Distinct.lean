/-
The names in a generated module. Models are refused exactly if two of them share the prefix of
their constants, and each prefix that is shared is reported once, in order. Otherwise no name
stands for two things: the constants differ from each other and from the table of all models, the
table has one entry for each model, and an entry refers to the constants of its own model alone.
-/
import Relvar.Proofs.Generated.Module
import Mathlib.Data.List.Duplicate
import Mathlib.Data.String.Basic

set_option autoImplicit false

namespace Relvar.Generated

variable {cs : List Compiled} {p : String}

/-! ## Shared prefixes -/

/-- Two of several models, at different places among them, have a prefix. -/
def Share (cs : List Compiled) (p : String) : Prop :=
  ∃ c d, [c, d].Sublist cs ∧ constantPrefix c.model = p ∧ constantPrefix d.model = p

theorem pair_sublist_map_iff {α β : Type} {f : α → β} {as : List α} {b : β} :
    [b, b].Sublist (as.map f) ↔ ∃ a a', [a, a'].Sublist as ∧ f a = b ∧ f a' = b := by
  rw [List.sublist_map_iff]
  constructor
  · rintro ⟨l, hl, hb⟩
    obtain ⟨a, l, rfl, ha, hb⟩ := List.map_eq_cons_iff.mp hb.symm
    obtain ⟨a', l, rfl, ha', hnil⟩ := List.map_eq_cons_iff.mp hb
    obtain rfl := List.map_eq_nil_iff.mp hnil
    exact ⟨a, a', hl, ha, ha'⟩
  · rintro ⟨a, a', hl, ha, ha'⟩
    exact ⟨[a, a'], hl, by rw [List.map_cons, List.map_singleton, ha, ha']⟩

theorem share_iff_count : Share cs p ↔ 1 < (cs.map fun c => constantPrefix c.model).count p := by
  rw [Share, ← pair_sublist_map_iff (f := fun c : Compiled => constantPrefix c.model),
    ← List.duplicate_iff_sublist, List.duplicate_iff_two_le_count]
  rfl

theorem exists_share_iff :
    (∃ p, Share cs p) ↔ ¬ (cs.map fun c => constantPrefix c.model).Nodup := by
  simp only [share_iff_count, List.nodup_iff_count_le_one, not_forall, Nat.not_le]

theorem mem_sharedPrefixes {ps : List String} : p ∈ sharedPrefixes ps ↔ 1 < ps.count p := by
  rw [sharedPrefixes, List.mem_mergeSort, List.mem_eraseDups, List.mem_filter, decide_eq_true_iff,
    and_iff_right_iff_imp]
  intro hcount
  exact List.count_pos_iff.mp (Nat.zero_lt_of_lt hcount)

/-- A list from which repetitions are erased has none. The induction is on the length, since a
step leaves out all that repeats the first element. -/
theorem nodup_eraseDups (ps : List String) : ps.eraseDups.Nodup := by
  induction hn : ps.length using Nat.strong_induction_on generalizing ps with
  | _ n ih =>
    cases ps with
    | nil => exact List.nodup_nil
    | cons p ps =>
      have hshorter : (ps.filter fun q => !q == p).length < n := by
        have hle := List.length_filter_le (fun q => !q == p) ps
        rw [List.length_cons] at hn
        omega
      rw [List.eraseDups_cons, List.nodup_cons, List.mem_eraseDups]
      exact ⟨by simp, ih _ hshorter _ rfl⟩

/-- Shared prefixes are listed in the order of their characters, each once. -/
theorem sharedPrefixes_ascending (ps : List String) : (sharedPrefixes ps).Pairwise (· < ·) := by
  have htrans : ∀ p q r : String, decide (p ≤ q) = true → decide (q ≤ r) = true →
      decide (p ≤ r) = true := by
    intro p q r hpq hqr
    rw [decide_eq_true_iff] at *
    exact le_trans hpq hqr
  have htotal : ∀ p q : String, (decide (p ≤ q) || decide (q ≤ p)) = true := by
    intro p q
    simpa using le_total p q
  have hsorted : (sharedPrefixes ps).Pairwise fun p q => decide (p ≤ q) = true :=
    List.pairwise_mergeSort htrans htotal (ps.filter fun p => 1 < ps.count p).eraseDups
  -- sorted alone would leave room for equal neighbours
  have honce : (sharedPrefixes ps).Nodup := by
    rw [sharedPrefixes, (List.mergeSort_perm _ _).nodup_iff]
    exact nodup_eraseDups _
  exact (hsorted.and honce).imp fun h => lt_of_le_of_ne (of_decide_eq_true h.1) h.2

/-- What is reported of models that are refused: each prefix that two of them share, once, in the
order of their characters. -/
structure SharedBy (cs : List Compiled) (ps : List String) : Prop where
  shared : ∀ p, p ∈ ps ↔ Share cs p
  ascending : ps.Pairwise (· < ·)

theorem sharedBy_sharedPrefixes (cs : List Compiled) :
    SharedBy cs (sharedPrefixes (cs.map fun c => constantPrefix c.model)) where
  shared _ := mem_sharedPrefixes.trans share_iff_count.symm
  ascending := sharedPrefixes_ascending _

theorem module?_eq_error {e : Fault} :
    module? cs = .error e ↔ (∃ p, Share cs p) ∧
      e = .sharedNames (sharedPrefixes (cs.map fun c => constantPrefix c.model)) := by
  rw [exists_share_iff, ← sharedPrefixes_isEmpty_iff, module?]
  split_ifs with h
  · simp [h]
  · simp [h, eq_comm]

/-! ## Constants and entries -/

/-- The names of the constants of a compiled model. -/
def constantNames (c : Compiled) : List String :=
  endings.map (constant (constantPrefix c.model))

/-- The lines of the constants of a compiled model: each is assigned its value. -/
def assignments (c : Compiled) : List String :=
  ["", "# " ++ c.model] ++ (constants c).map fun p => p.1 ++ " = " ++ p.2.shown

/-- The keys of the entry of a compiled model with the names that stand behind them. -/
def referred (c : Compiled) : List (String × String) :=
  references.map fun r => (r.1, constant (constantPrefix c.model) r.2)

/-- The lines of the entry of a compiled model in the table. -/
def entryLines (c : Compiled) : List String :=
  ["    " ++ Text.quote c.model ++ ": \x7b"] ++
    (referred c).map (fun r => "        \"" ++ r.1 ++ "\": " ++ r.2 ++ ",") ++ ["    \x7d,"]

theorem constants_names (c : Compiled) : (constants c).map Prod.fst = constantNames c := rfl

theorem constantLines_assignments (c : Compiled) : constantLines c = assignments c := rfl

theorem tableLines_entryLines (c : Compiled) : tableLines c = entryLines c := by
  have hline (r : String × String) : entryLine (constantPrefix c.model) r.1 r.2 =
      "        \"" ++ r.1 ++ "\": " ++ constant (constantPrefix c.model) r.2 ++ "," := by
    have hwhole : entryLine (constantPrefix c.model) r.1 r.2 =
        "        \"" ++ r.1 ++ "\": " ++ constantPrefix c.model ++ "_" ++ r.2 ++ "," := rfl
    simp only [hwhole, constant, String.append_assoc]
  have hentries : (references.map fun r => entryLine (constantPrefix c.model) r.1 r.2) =
      (referred c).map fun r => "        \"" ++ r.1 ++ "\": " ++ r.2 ++ "," := by
    rw [referred, List.map_map]
    exact List.map_congr_left fun r _ => hline r
  rw [entryLines, ← hentries]
  rfl

/-- The names of a module stand for one thing each. -/
structure NamesApart (cs : List Compiled) (text : String) : Prop where
  /-- The text assigns the constants and refers to them. -/
  text_eq : text = unlines (header ++ cs.flatMap assignments ++ ["", "", "MODELS = \x7b"] ++
    cs.flatMap entryLines ++ ["\x7d"])
  /-- The names that are assigned are those of six constants for each model. -/
  names : ∀ c ∈ cs, (constants c).map Prod.fst = constantNames c ∧ (constantNames c).length = 6
  /-- No two constants have the same name, and none has that of the table. -/
  distinct : ("MODELS" :: cs.flatMap constantNames).Nodup
  /-- No two entries have the same key. -/
  keys : (cs.map Compiled.model).Nodup
  /-- What an entry refers to is a constant of its model and of no other one. -/
  own : ∀ c ∈ cs, ∀ r ∈ referred c,
    r.2 ∈ constantNames c ∧ ∀ d ∈ cs, r.2 ∈ constantNames d → d = c

/-- Models that have a constant in common have the same prefix. -/
theorem prefix_eq_of_mem_constantNames {c d : Compiled} {name : String}
    (hc : name ∈ constantNames c) (hd : name ∈ constantNames d) :
    constantPrefix c.model = constantPrefix d.model := by
  obtain ⟨e, he, rfl⟩ := List.mem_map.mp hc
  obtain ⟨e', he', heq⟩ := List.mem_map.mp hd
  exact (constant_inj he' he heq).1.symm

theorem mem_constantNames_of_referred {c : Compiled} {r : String × String}
    (hr : r ∈ referred c) : r.2 ∈ constantNames c := by
  have hall : ∀ r ∈ references, r.2 ∈ endings := by decide
  obtain ⟨q, hq, rfl⟩ := List.mem_map.mp hr
  exact List.mem_map_of_mem (hall q hq)

/-- If no two models share a prefix, the names of their module stand for one thing each. -/
theorem namesApart_lines (h : (cs.map fun c => constantPrefix c.model).Nodup) :
    NamesApart cs (unlines (lines cs)) where
  text_eq := by
    have hassignments : cs.flatMap constantLines = cs.flatMap assignments :=
      congrArg cs.flatMap (funext constantLines_assignments)
    have hentries : cs.flatMap tableLines = cs.flatMap entryLines :=
      congrArg cs.flatMap (funext tableLines_entryLines)
    rw [lines, hassignments, hentries]
  names c _ := ⟨constants_names c, rfl⟩
  distinct := by
    have hnames : cs.flatMap constantNames = (cs.flatMap constants).map Prod.fst := by
      rw [List.map_flatMap]
      rfl
    -- the name of the table at the end is no constant, for a constant has an ending
    refine List.nodup_cons.mpr ⟨fun hmem => ?_, hnames ▸ nodup_constants h⟩
    obtain ⟨c, -, hc⟩ := List.mem_flatMap.mp hmem
    obtain ⟨e, -, he⟩ := List.mem_map.mp hc
    exact constant_ne_models _ _ he
  keys := nodup_models h
  own c hc r hr := by
    refine ⟨mem_constantNames_of_referred hr, fun d hd hdr => ?_⟩
    exact List.inj_on_of_nodup_map h hd hc
      (prefix_eq_of_mem_constantNames hdr (mem_constantNames_of_referred hr))

/-- **Names in generated modules.** Models are refused if and only if two of them share a prefix,
and then each shared prefix is reported once, in the order of their characters. Otherwise no two
constants have the same name, none has that of the table, no two entries of the table have the
same key, and each entry refers to constants of its own model alone. -/
theorem module_names (cs : List Compiled) :
    ((∃ e, module? cs = .error e) ↔ ∃ p, Share cs p) ∧
    (∀ e, module? cs = .error e → e.category = .generation ∧ ∃ ps, SharedBy cs ps ∧
      e.message = "models map to the same constant prefix: " ++ ", ".intercalate ps) ∧
    ∀ text, module? cs = .ok text → NamesApart cs text := by
  refine ⟨⟨?_, ?_⟩, ?_, ?_⟩
  · rintro ⟨e, he⟩
    exact (module?_eq_error.mp he).1
  · intro hshare
    exact ⟨_, module?_eq_error.mpr ⟨hshare, rfl⟩⟩
  · intro e he
    obtain ⟨-, rfl⟩ := module?_eq_error.mp he
    exact ⟨rfl, _, sharedBy_sharedPrefixes cs, rfl⟩
  · intro text htext
    obtain ⟨hprefixes, rfl⟩ := module?_eq_ok.mp htext
    exact namesApart_lines hprefixes

/-- The sample under another name. -/
def renamed (model : String) : Compiled := { visits with model := model }

theorem module_names_userLog :
    (module? pair = .ok (unlines (lines pair)) ∧ NamesApart pair (unlines (lines pair))) ∧
    ∃ e ps, module? [renamed "UserLog", visits, renamed "user_log"] = .error e ∧
      e.category = .generation ∧ "USER_LOG" ∈ ps ∧ "VISITS" ∉ ps ∧
      e.message = "models map to the same constant prefix: " ++ ", ".intercalate ps := by
  have hshare : Share [renamed "UserLog", visits, renamed "user_log"] "USER_LOG" :=
    ⟨renamed "UserLog", renamed "user_log", by simp, by decide, by decide⟩
  have honce : ¬ Share [renamed "UserLog", visits, renamed "user_log"] "VISITS" := by
    rw [share_iff_count]
    decide
  obtain ⟨-, -, hapart⟩ := module_names pair
  obtain ⟨hrefused, hreport, -⟩ := module_names [renamed "UserLog", visits, renamed "user_log"]
  obtain ⟨e, he⟩ := hrefused.mpr ⟨"USER_LOG", hshare⟩
  obtain ⟨hcategory, ps, hps, hmessage⟩ := hreport e he
  exact ⟨⟨module?_pair, hapart _ module?_pair⟩, e, ps, he, hcategory, (hps.shared _).mpr hshare,
    mt (hps.shared _).mp honce, hmessage⟩

end Relvar.Generated
