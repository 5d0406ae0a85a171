/-
The report of a migration in text. Each step is reported in a line that starts with the mark of
its status, and no other line of the report starts with a mark: statements create tables, and
all else is set in or starts with a word, a rule or an empty line. So the marked lines are the
steps, in their order.
-/
import Relvar.CommandLine.Deployment
import Relvar.Proofs.Report

set_option autoImplicit false

namespace Relvar

/-! ## What is printed -/

/-- The texts among what happened that were printed. -/
def Happening.prints : List Happening → List String
  | [] => []
  | printed s :: hs => s :: prints hs
  | _ :: hs => prints hs

theorem Happening.prints_append (hs ks : List Happening) :
    prints (hs ++ ks) = prints hs ++ prints ks := by
  induction hs with
  | nil => rfl
  | cons h hs ih => cases h <;> simp [prints, ih]

theorem Happening.prints_of_unprinted {hs : List Happening}
    (h : ∀ x ∈ hs, ∀ text, x ≠ .printed text) : prints hs = [] := by
  induction hs with
  | nil => rfl
  | cons x hs ih =>
    obtain ⟨hx, hrest⟩ := List.forall_mem_cons.mp h
    cases x with
    | printed text => exact absurd rfl (hx text)
    | _ => exact ih hrest

namespace CommandLine

/-- Lines as they are printed. -/
def ended (ls : List String) : List String := ls.map (· ++ "\n")

@[simp] theorem ended_append (ls ms : List String) : ended (ls ++ ms) = ended ls ++ ended ms :=
  List.map_append

@[simp] theorem prints_ended (ls : List String) :
    Happening.prints ((ended ls).map .printed) = ended ls := by
  induction ls with
  | nil => rfl
  | cons l ls ih =>
    have hcons : ended (l :: ls) = (l ++ "\n") :: ended ls := rfl
    rw [hcons, List.map_cons, Happening.prints, ih]

theorem run_printLines (ls : List String) (s : Session) : (printLines ls).run s =
    (.ok (), { s with happenings := s.happenings ++ (ended ls).map .printed }) := by
  induction ls generalizing s with
  | nil => simp [printLines, ended]
  | cons l ls ih =>
    have hfirst : (Run.printLine l).run s =
        (.ok (), { s with happenings := s.happenings ++ [.printed (l ++ "\n")] }) := rfl
    rw [printLines, Run.run_bind, hfirst]
    simp only [ih, ended, List.map_cons, List.append_assoc, List.singleton_append]

/-! ## Marks -/

/-- The line that tells of a step. -/
def markedLine (x : Step) : String := mark x.status ++ " " ++ x.name ++ ": " ++ x.message

/-- Whether a text starts with a mark. -/
def isMarked (text : String) : Bool :=
  [StepStatus.success, .failed, .skipped].any fun status =>
    (mark status ++ " ").toList.isPrefixOf text.toList

/-- A line that starts otherwise than marks do. -/
def Unmarked (l : String) : Prop := l.toList.head? ≠ some '['

instance (l : String) : Decidable (Unmarked l) :=
  inferInstanceAs (Decidable (l.toList.head? ≠ some '['))

theorem isMarked_markedLine (x : Step) : isMarked (markedLine x ++ "\n") = true := by
  refine List.any_eq_true.mpr ⟨x.status, by cases x.status <;> simp, ?_⟩
  rw [List.isPrefixOf_iff_prefix]
  refine ⟨(x.name ++ ": " ++ x.message ++ "\n").toList, ?_⟩
  simp only [markedLine, String.toList_append, List.append_assoc]

theorem Unmarked.isMarked_ended {l : String} (h : Unmarked l) : isMarked (l ++ "\n") = false := by
  have hhead : (l ++ "\n").toList.head? ≠ some '[' := by
    rw [String.toList_append]
    cases htext : l.toList with
    | nil => decide
    | cons c cs =>
      rw [Unmarked, htext] at h
      exact h
  -- every mark starts with the bracket
  have hmark : ∀ status, ∃ rest, (mark status ++ " ").toList = '[' :: rest :=
    fun status => by cases status <;> exact ⟨_, rfl⟩
  refine Bool.eq_false_iff.mpr fun hmarked => ?_
  obtain ⟨status, -, hprefix⟩ := List.any_eq_true.mp hmarked
  obtain ⟨rest, hrest⟩ := hmark status
  obtain ⟨after, hafter⟩ := List.isPrefixOf_iff_prefix.mp hprefix
  rw [← hafter, hrest] at hhead
  exact hhead rfl

theorem filter_ended {ls : List String} (h : ∀ l ∈ ls, Unmarked l) :
    (ended ls).filter isMarked = [] := by
  refine List.filter_eq_nil_iff.mpr fun text htext => ?_
  obtain ⟨l, hl, rfl⟩ := List.mem_map.mp htext
  simp [(h l hl).isMarked_ended]

/-- What a line starts with is what text in front of it starts with. -/
theorem unmarked_append {front rest : String} (hne : front ≠ "") (h : Unmarked front) :
    Unmarked (front ++ rest) := by
  rw [Unmarked, String.toList_append, List.head?_append]
  cases htext : front.toList with
  | nil => exact absurd (String.toList_inj.mp htext) hne
  | cons c cs =>
    rw [Unmarked, htext] at h
    exact h

/-! ## Reports -/

/-- Of the lines of a step the first is marked. -/
theorem filter_stepLines (showDetails : Bool) (x : Step) :
    (ended (stepLines showDetails x)).filter isMarked = [markedLine x ++ "\n"] := by
  -- the other lines are indented, so none of them starts with a mark
  have hrest : ∀ l ∈ (if x.errorText = "" then [] else ["   Error: " ++ x.errorText]) ++
      (if showDetails then x.details.map fun d => "   " ++ d.1 ++ ": " ++ d.2.text else []),
      Unmarked l := by
    intro l hl
    rcases List.mem_append.mp hl with hl | hl
    · split at hl
      · cases hl
      · rw [List.mem_singleton.mp hl]
        exact unmarked_append (by decide) (by decide)
    · split at hl
      · obtain ⟨d, -, rfl⟩ := List.mem_map.mp hl
        simp only [String.append_assoc]
        exact unmarked_append (by decide) (by decide)
      · cases hl
  have hfirst : (ended [markedLine x]).filter isMarked = [markedLine x ++ "\n"] :=
    List.filter_cons_of_pos (isMarked_markedLine x)
  rw [stepLines, List.append_assoc, ended_append, List.filter_append, filter_ended hrest,
    List.append_nil]
  exact hfirst

theorem unmarked_headLines : ∀ l ∈ headLines, Unmarked l := by decide

theorem unmarked_statementLines {m : Migration}
    (h : ∀ st ∈ m.statements, Migration.CreatesTable st) :
    ∀ l ∈ statementLines m, Unmarked l := by
  intro l hl
  rw [statementLines] at hl
  split at hl
  · rcases List.mem_cons.mp hl with rfl | hl
    · decide
    · obtain ⟨rest, rfl⟩ := h l hl
      exact unmarked_append (by decide) (by decide)
  · cases hl

theorem unmarked_closingLines (m : Migration) : ∀ l ∈ closingLines m, Unmarked l := by
  have hrule : Unmarked Migration.rule := by decide
  have hempty : Unmarked ("\n" ++ Migration.rule) := by decide
  -- an error is listed behind a dash and blanks, whatever its text starts with
  have houtcome : ∀ l ∈ (if m.success then ["Deployment completed successfully"]
      else "Deployment failed" :: m.errors.map fun e => "   - " ++ e), Unmarked l := by
    split
    · decide
    · refine List.forall_mem_cons.mpr ⟨by decide, fun l hl => ?_⟩
      obtain ⟨e, -, rfl⟩ := List.mem_map.mp hl
      exact unmarked_append (by decide) (by decide)
  intro l hl
  simp only [closingLines, List.mem_append, List.mem_singleton] at hl
  rcases hl with (rfl | hl) | rfl
  · exact hempty
  · exact houtcome l hl
  · exact hrule

/-- The marked lines of a report tell of the steps, in their order. -/
theorem filter_reportLines (showDetails : Bool) {m : Migration}
    (h : ∀ st ∈ m.statements, Migration.CreatesTable st) :
    (ended (reportLines showDetails m)).filter isMarked =
      m.steps.map fun x => markedLine x ++ "\n" := by
  have hsteps : ∀ xs : List Step,
      (ended (xs.flatMap (stepLines showDetails))).filter isMarked =
        xs.map fun x => markedLine x ++ "\n" := by
    intro xs
    induction xs with
    | nil => rfl
    | cons x xs ih =>
      rw [List.flatMap_cons, ended_append, List.filter_append, filter_stepLines, ih]
      rfl
  have hhead : (ended ["\n[RESULTS]\n"]).filter isMarked = [] := filter_ended (by decide)
  simp only [reportLines, ended_append, List.filter_append, hhead, hsteps,
    filter_ended (unmarked_statementLines h), filter_ended (unmarked_closingLines m),
    List.nil_append, List.append_nil]

/-! ## Names of models -/

theorem nameTexts_eq_ok {vs : List Value} (h : ∀ v ∈ vs, v.asText?.isSome = true) (index : Nat) :
    ∃ ss, nameTexts index vs = .ok ss := by
  induction vs generalizing index with
  | nil => exact ⟨[], rfl⟩
  | cons v vs ih =>
    obtain ⟨hv, hvs⟩ := List.forall_mem_cons.mp h
    obtain ⟨s, hs⟩ := Option.isSome_iff_exists.mp hv
    obtain ⟨ss, hss⟩ := ih hvs (index + 1)
    exact ⟨s :: ss, by rw [nameTexts, hs, hss]; rfl⟩

/-- The lines in front of a report are there if the names of the models are text. -/
theorem openingLines_eq_ok {registry : Registry}
    (h : ∀ d ∈ registry, d.name.asText?.isSome = true) (isDryRun : Bool) :
    ∃ ls, openingLines registry isDryRun = .ok ls ∧ ∀ l ∈ ls, Unmarked l := by
  have hnames : ∀ v ∈ registry.names, v.asText?.isSome = true := by
    intro v hv
    obtain ⟨d, hd, rfl⟩ := List.mem_map.mp hv
    exact h d hd
  obtain ⟨ss, hss⟩ := nameTexts_eq_ok hnames 0
  refine ⟨_, by rw [openingLines, hss]; rfl, ?_⟩
  simp only [List.forall_mem_cons]
  exact ⟨unmarked_append (by decide) (by decide), unmarked_append (by decide) (by decide),
    by decide, by simp⟩

end CommandLine

end Relvar
