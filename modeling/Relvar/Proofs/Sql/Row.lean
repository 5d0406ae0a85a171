/-
Statements on the rows of a table, read back with their parameters. A reader of these
statements finds out which columns they name and which marker stands for each; markers
without a number are numbered in the order in which they stand. With the parameters
that are sent along, the reader knows the value of every column, if no parameter is
left over and none is used twice.
-/
import Relvar.Proofs.Sql.Lexeme
import Relvar.Statement.Binding
import Relvar.Statement.Basic

set_option autoImplicit false

namespace Relvar.Sql

/-! ## Reader -/

/-- What a statement does to rows. -/
inductive Action
  | insert
  | update
  | delete
  deriving DecidableEq

/-- A statement on the rows of a table: the columns that it writes and the column that
it compares, each with something that stands for a value. -/
structure Row (α : Type) where
  action : Action
  table : String
  values : List (String × α)
  key : Option (String × α)

/-- Tokens whose markers have numbers: those without are counted from a number on. -/
def numbered (next : Nat) : List Token → List Token
  | [] => []
  | .marker none :: ts => .marker (some next) :: numbered (next + 1) ts
  | t :: ts => t :: numbered next ts

/-- The name of a column. -/
def readName : List Token → Option (String × List Token)
  | .word s :: ts => some (s, ts)
  | _ => none

/-- A marker. -/
def readMarker : List Token → Option (Nat × List Token)
  | .marker (some n) :: ts => some (n, ts)
  | _ => none

/-- The name of a column with a marker. -/
def readPair : List Token → Option ((String × Nat) × List Token)
  | .word s :: .sign '=' :: .marker (some n) :: ts => some ((s, n), ts)
  | _ => none

/-- The condition on a key, and the end of the statement. -/
def readKey : List Token → Option (String × Nat)
  | .word "where" :: ts =>
    match readPair ts with
    | some (key, [.sign ';']) => some key
    | _ => none
  | _ => none

/-- A statement on rows, with the numbers of its parameters. -/
def readRow : List Token → Option (Row Nat)
  | [.word "insert", .word "into", .word table, .word "default", .word "values", .sign ';'] =>
    some ⟨.insert, table, [], none⟩
  | .word "insert" :: .word "into" :: .word table :: .sign '(' :: ts => do
    match ← items readName ts with
    | (names, .sign ')' :: .word "values" :: .sign '(' :: ts) =>
      match ← items readMarker ts with
      | (ns, [.sign ')', .sign ';']) =>
        if names.length = ns.length then some ⟨.insert, table, names.zip ns, none⟩ else none
      | _ => none
    | _ => none
  | .word "update" :: .word table :: .word "set" :: ts => do
    let (values, ts) ← items readPair ts
    let key ← readKey ts
    return ⟨.update, table, values, some key⟩
  | .word "delete" :: .word "from" :: .word table :: ts => do
    let key ← readKey ts
    return ⟨.delete, table, [], some key⟩
  | _ => none

/-- A column with the parameter of a number. -/
def lookUp {α : Type} (params : List α) (e : String × Nat) : Option (String × α) :=
  match e.2 with
  | 0 => none
  | n + 1 => params[n]?.map fun v => (e.1, v)

/-- A statement on rows, with its parameters: each of them stands for one value. -/
def Row.resolve {α : Type} (params : List α) (r : Row Nat) : Option (Row α) := do
  let columns := r.values ++ r.key.toList
  let numbers := columns.map (·.2)
  if numbers.length = params.length ∧ ∀ i < params.length, i + 1 ∈ numbers then
    let values ← r.values.mapM (lookUp params)
    let key ← r.key.mapM (lookUp params)
    return ⟨r.action, r.table, values, key⟩
  else none

/-- What a statement in a style does to rows with the parameters that are sent along. -/
def row (style : BindStyle) (statement : String) (params : List Value) : Option (Row Value) := do
  let ts ← tokens (some style) statement
  let r ← readRow (numbered 1 ts)
  r.resolve params

/-! ## Statements as lexemes -/

/-- The lexemes of a column with a marker. -/
def pairLexemes (e : String × Nat) : List Lexeme := [.word e.1, .sign '=', .marker e.2]

/-- Names with the numbers of their markers, from one on. -/
def counted (names : List String) : List (String × Nat) := names.zip (List.range' 1 names.length)

/-- The lexemes of the condition on a key. -/
def keyLexemes (e : String × Nat) : List Lexeme :=
  .blank :: .word "where" :: .blank :: (pairLexemes e ++ [.sign ';'])

/-- The lexemes of the statement that inserts a row. -/
def insertLexemes (table : String) (names : List String) : List Lexeme :=
  [Lexeme.word "insert", .blank, .word "into", .blank, .word table, .blank] ++
    if names = [] then [Lexeme.word "default", .blank, .word "values", .sign ';']
    else Lexeme.sign '(' :: (comma.intercalate (names.map fun s => [Lexeme.word s]) ++
      ([Lexeme.sign ')', .blank, .word "values", .blank, .sign '('] ++
        (comma.intercalate ((List.range' 1 names.length).map fun n => [Lexeme.marker n]) ++
          [Lexeme.sign ')', .sign ';'])))

/-- The lexemes of the statement that updates the row of a key. -/
def updateLexemes (table key : String) (names : List String) : List Lexeme :=
  [Lexeme.word "update", .blank, .word table, .blank, .word "set", .blank] ++
    (comma.intercalate ((counted names).map pairLexemes) ++ keyLexemes (key, names.length + 1))

/-- The lexemes of the statement that deletes the row of a key. -/
def deleteLexemes (table key : String) : List Lexeme :=
  [.word "delete", .blank, .word "from", .blank, .word table] ++ keyLexemes (key, 1)

theorem toList_marker (n : Nat) : (Statement.marker n).toList = '?' :: Decimal.digits n := by
  simp [Statement.marker, Decimal.ofNat]

theorem toList_insert (table : String) (names : List String) :
    (Statement.insert table names).toList = written (insertLexemes table names) := by
  unfold Statement.insert
  -- without a field there is another statement, for an empty row cannot be listed
  by_cases hnames : names = []
  · subst hnames
    have htext : s!"insert into {table} default values;" =
        "insert into " ++ table ++ " default values;" := rfl
    simp [htext, insertLexemes, Lexeme.chars]
  · have htext : s!"insert into {table} (" = "insert into " ++ table ++ " (" := rfl
    have hmarkers : (Statement.markers names.length).map String.toList =
        ((List.range' 1 names.length).map fun n => [Lexeme.marker n]).map written := by
      simp [Statement.markers, List.range'_eq_map_range, toList_marker, Lexeme.chars,
        Lexeme.markerText, Function.comp_def, Nat.add_comm]
    simp only [List.isEmpty_iff, hnames, if_false, htext, String.toList_append,
      String.toList_intercalate, hmarkers, insertLexemes, written, List.flatMap_append,
      List.flatMap_cons, flatMap_intercalate]
    simp [comma, Lexeme.chars, Function.comp_def]

theorem toList_assignments (first : Nat) (names : List String) :
    (Statement.assignments first names).map String.toList =
      ((names.zip (List.range' first names.length)).map pairLexemes).map written := by
  induction names generalizing first with
  | nil => rfl
  | cons name names ih =>
    simp [Statement.assignments, ih, List.range'_succ, pairLexemes, toList_marker, Lexeme.chars,
      Lexeme.markerText]

theorem toList_update (table key : String) (names : List String) :
    (Statement.update table key names).toList = written (updateLexemes table key names) := by
  have htext : Statement.update table key names = "update " ++ table ++ " set " ++
      ", ".intercalate (Statement.assignments 1 names) ++
        (" where " ++ key ++ "=" ++ Statement.marker (names.length + 1) ++ ";") := rfl
  have hpairs : (Statement.assignments 1 names).map String.toList =
      ((counted names).map pairLexemes).map written := toList_assignments 1 names
  rw [htext, updateLexemes, written, List.flatMap_append, List.flatMap_append,
    flatMap_intercalate, ← hpairs]
  simp [comma, Lexeme.chars, keyLexemes, pairLexemes, toList_marker, Lexeme.markerText]

theorem toList_delete (table key : String) :
    (Statement.delete table key).toList = written (deleteLexemes table key) := by
  have htext : Statement.delete table key =
      "delete from " ++ table ++ " where " ++ key ++ "=" ++ Statement.marker 1 ++ ";" := rfl
  rw [htext]
  simp [deleteLexemes, Lexeme.chars, keyLexemes, pairLexemes, toList_marker, Lexeme.markerText]

/-! ## Legibility -/

theorem legible_pair {e : String × Nat} (h : IsWord e.1) : Legible (pairLexemes e) :=
  ⟨by simp [pairLexemes, Lexeme.Ok, Lexeme.signs, h], by simp [pairLexemes, Lexeme.isSolid]⟩

theorem legible_key {e : String × Nat} (h : IsWord e.1) : Legible (keyLexemes e) := by
  have hwhere : IsWord "where" := by decide
  exact ⟨by simp [keyLexemes, pairLexemes, Lexeme.Ok, Lexeme.signs, h, hwhere],
    by simp [keyLexemes, pairLexemes, Lexeme.isSolid]⟩

theorem mem_of_mem_counted {names : List String} {e : String × Nat} (h : e ∈ counted names) :
    e.1 ∈ names :=
  (List.of_mem_zip h).1

theorem legible_insert {table : String} {names : List String} (htable : IsWord table)
    (hnames : ∀ s ∈ names, IsWord s) : Legible (insertLexemes table names) := by
  have hopen : Legible [.word "insert", .blank, .word "into", .blank] := by decide
  have hname : Legible [.word table, .blank] :=
    ⟨by simp [Lexeme.Ok, htable], by simp [Lexeme.isSolid]⟩
  have hfront := hopen.append hname (.inl (by simp [Lexeme.isSolid]))
  refine hfront.append ?_ (.inl (by simp [Lexeme.isSolid]))
  -- the statement without a field is fixed, so it is looked at as it is
  by_cases hnil : names = []
  · rw [if_pos hnil]
    decide
  · rw [if_neg hnil]
    have hbracket : Legible [.sign '('] := by decide
    have hmiddle : Legible [.sign ')', .blank, .word "values", .blank, .sign '('] := by decide
    have hend : Legible [.sign ')', .sign ';'] := by decide
    have hcolumns : Legible (comma.intercalate (names.map fun s => [.word s])) := by
      refine Legible.intercalate (.inr rfl) fun ls hls => ?_
      obtain ⟨s, hs, rfl⟩ := List.mem_map.mp hls
      exact ⟨by simp [Lexeme.Ok, hnames s hs], by simp⟩
    have hmarkers : Legible
        (comma.intercalate ((List.range' 1 names.length).map fun n => [.marker n])) := by
      refine Legible.intercalate (.inr rfl) fun ls hls => ?_
      obtain ⟨n, -, rfl⟩ := List.mem_map.mp hls
      exact ⟨by simp [Lexeme.Ok], by simp⟩
    have hvalues := hmiddle.append (hmarkers.append hend (.inr (by simp [Lexeme.isSolid])))
      (.inl (by simp [Lexeme.isSolid]))
    exact hbracket.append (hcolumns.append hvalues (.inr (by simp [Lexeme.isSolid])))
      (.inl (by simp [Lexeme.isSolid]))

theorem legible_update {table key : String} {names : List String} (htable : IsWord table)
    (hkey : IsWord key) (hnames : ∀ s ∈ names, IsWord s) :
    Legible (updateLexemes table key names) := by
  have hfront : Legible [.word "update", .blank, .word table, .blank, .word "set", .blank] := by
    have hupdate : IsWord "update" := by decide
    have hset : IsWord "set" := by decide
    exact ⟨by simp [Lexeme.Ok, htable, hupdate, hset], by simp [Lexeme.isSolid]⟩
  have hpairs : Legible (comma.intercalate ((counted names).map pairLexemes)) := by
    refine Legible.intercalate (.inr rfl) fun ls hls => ?_
    obtain ⟨e, he, rfl⟩ := List.mem_map.mp hls
    exact legible_pair (hnames e.1 (mem_of_mem_counted he))
  refine hfront.append (hpairs.append (legible_key hkey) (.inr ?_))
    (.inl (by simp [Lexeme.isSolid]))
  simp [keyLexemes, Lexeme.isSolid]

theorem legible_delete {table key : String} (htable : IsWord table) (hkey : IsWord key) :
    Legible (deleteLexemes table key) := by
  have hfront : Legible [.word "delete", .blank, .word "from", .blank, .word table] := by
    have hdelete : IsWord "delete" := by decide
    have hfrom : IsWord "from" := by decide
    exact ⟨by simp [Lexeme.Ok, htable, hdelete, hfrom], by simp [Lexeme.isSolid]⟩
  exact hfront.append (legible_key hkey) (.inr (by simp [keyLexemes, Lexeme.isSolid]))

/-! ## Numbers of markers -/

/-- Markers that have numbers are left as they are. -/
theorem numbered_of_shown {style : BindStyle} (h : ∀ n, Lexeme.shown n (some style) = some n)
    (k : Nat) (ls : List Lexeme) :
    numbered k (ls.flatMap (Lexeme.tokens (some style))) = spelled ls := by
  induction ls with
  | nil => rfl
  | cons l ls ih => cases l <;> simp_all [Lexeme.tokens, numbered, Lexeme.shown]

/-- Markers without numbers get those that they were written with, if these count on. -/
theorem numbered_of_hidden {style : BindStyle} (h : ∀ n, Lexeme.shown n (some style) = none)
    {k m : Nat} {ls : List Lexeme} (hls : ls.flatMap Lexeme.markers = List.range' k m) :
    numbered k (ls.flatMap (Lexeme.tokens (some style))) = spelled ls := by
  induction ls generalizing k m with
  | nil => rfl
  | cons l ls ih =>
    cases l with
    | marker n =>
      cases m with
      | zero => simp [Lexeme.markers] at hls
      | succ m =>
        rw [List.range'_succ, List.flatMap_cons] at hls
        obtain ⟨rfl, hls⟩ := List.cons.inj hls
        rw [List.flatMap_cons, Lexeme.tokens, h, List.singleton_append, numbered, ih hls]
        rfl
    | _ => simp [Lexeme.tokens, numbered, ih hls]

theorem numbered_tokens (style : BindStyle) {m : Nat} {ls : List Lexeme}
    (hls : ls.flatMap Lexeme.markers = List.range' 1 m) :
    numbered 1 (ls.flatMap (Lexeme.tokens (some style))) = spelled ls := by
  cases style with
  | qmark | format => exact numbered_of_hidden (fun _ => rfl) hls
  | numeric | dollar => exact numbered_of_shown (fun _ => rfl) 1 ls

theorem map_snd_counted (names : List String) :
    (counted names).map Prod.snd = List.range' 1 names.length :=
  List.map_snd_zip (by simp)

/-- A comma shows no number. -/
theorem markers_intercalate (rows : List (List Lexeme)) :
    (comma.intercalate rows).flatMap Lexeme.markers =
      rows.flatMap (·.flatMap Lexeme.markers) := by
  rw [flatMap_intercalate]
  exact (intercalate_nil_left _).trans List.flatMap_def.symm

theorem markers_insert (table : String) (names : List String) :
    (insertLexemes table names).flatMap Lexeme.markers = List.range' 1 names.length := by
  by_cases hnil : names = []
  · subst hnil
    rfl
  · rw [insertLexemes, if_neg hnil]
    simp [markers_intercalate, List.flatMap_map, Lexeme.markers]

theorem markers_update (table key : String) (names : List String) :
    (updateLexemes table key names).flatMap Lexeme.markers =
      List.range' 1 (names.length + 1) := by
  have hpairs : ((counted names).map pairLexemes).flatMap (·.flatMap Lexeme.markers) =
      (counted names).map Prod.snd := by
    rw [List.flatMap_map, List.map_eq_flatMap]
    rfl
  rw [updateLexemes, List.flatMap_append, List.flatMap_append, markers_intercalate, hpairs,
    map_snd_counted, List.range'_concat]
  simp [Lexeme.markers, keyLexemes, pairLexemes, Nat.add_comm]

/-! ## Reading -/

theorem spelled_intercalate (rows : List (List Lexeme)) :
    spelled (comma.intercalate rows) = [Token.sign ','].intercalate (rows.map spelled) :=
  flatMap_intercalate _ _ _

theorem items_pairs {es : List (String × Nat)} {rest : List Token} (hne : es ≠ [])
    (hrest : ∀ ts, rest ≠ .sign ',' :: ts) :
    items readPair (spelled (comma.intercalate (es.map pairLexemes)) ++ rest) =
      some (es, rest) := by
  rw [spelled_intercalate, List.map_map]
  exact items_intercalate readPair _ (fun _ => True) hne (by simp [pairLexemes, Lexeme.tokens])
    (fun _ => trivial) (fun _ _ _ _ => rfl) trivial hrest

theorem readRow_insert (table : String) (names : List String) :
    readRow (spelled (insertLexemes table names)) =
      some ⟨.insert, table, counted names, none⟩ := by
  by_cases hnil : names = []
  · subst hnil
    rfl
  · have hnames : spelled (comma.intercalate (names.map fun s => [Lexeme.word s])) =
        [Token.sign ','].intercalate (names.map fun s => [Token.word s]) := by
      rw [spelled_intercalate, List.map_map]
      rfl
    have hnumbers : spelled (comma.intercalate
          ((List.range' 1 names.length).map fun n => [Lexeme.marker n])) =
        [Token.sign ','].intercalate
          ((List.range' 1 names.length).map fun n => [Token.marker (some n)]) := by
      rw [spelled_intercalate, List.map_map]
      rfl
    have hspelled : spelled (insertLexemes table names) =
        Token.word "insert" :: .word "into" :: .word table :: .sign '(' ::
          ([Token.sign ','].intercalate (names.map fun s => [Token.word s]) ++
            (Token.sign ')' :: .word "values" :: .sign '(' ::
              ([Token.sign ','].intercalate
                ((List.range' 1 names.length).map fun n => [Token.marker (some n)]) ++
                [Token.sign ')', .sign ';']))) := by
      rw [insertLexemes, if_neg hnil, ← hnames, ← hnumbers]
      simp [Lexeme.tokens]
    have readNames : ∀ ts, items readName
        ([Token.sign ','].intercalate (names.map fun s => [Token.word s]) ++ Token.sign ')' :: ts) =
          some (names, Token.sign ')' :: ts) := fun ts =>
      items_intercalate readName (fun s => [.word s]) (fun _ => True) hnil (by simp)
        (fun _ => trivial) (fun _ _ _ _ => rfl) trivial (by simp)
    have readMarkers : items readMarker ([Token.sign ','].intercalate
        ((List.range' 1 names.length).map fun n => [Token.marker (some n)]) ++
          [Token.sign ')', .sign ';']) =
        some (List.range' 1 names.length, [Token.sign ')', .sign ';']) :=
      items_intercalate readMarker (fun n => [.marker (some n)]) (fun _ => True)
        (by simpa using hnil) (by simp) (fun _ => trivial) (fun _ _ _ _ => rfl) trivial (by simp)
    rw [hspelled]
    simp only [readRow, readNames, readMarkers, Option.bind_eq_bind, Option.bind_some,
      List.length_range', if_true]
    rfl

theorem readRow_update (table key : String) {names : List String} (hne : names ≠ []) :
    readRow (spelled (updateLexemes table key names)) =
      some ⟨.update, table, counted names, some (key, names.length + 1)⟩ := by
  have hcounted : counted names ≠ [] := by
    simpa [counted] using hne
  have hspelled : spelled (updateLexemes table key names) =
      .word "update" :: .word table :: .word "set" ::
        (spelled (comma.intercalate ((counted names).map pairLexemes)) ++
          spelled (keyLexemes (key, names.length + 1))) := by
    simp [updateLexemes, Lexeme.tokens]
  rw [hspelled, readRow, items_pairs hcounted (fun ts => by simp [keyLexemes, Lexeme.tokens])]
  rfl

theorem readRow_delete (table key : String) :
    readRow (spelled (deleteLexemes table key)) =
      some ⟨.delete, table, [], some (key, 1)⟩ := rfl

/-! ## Parameters -/

/-- Each of several names finds the parameter of its number. -/
theorem mapM_lookUp {α : Type} (pre params post : List α) {names : List String}
    (h : names.length = params.length) :
    (names.zip (List.range' (pre.length + 1) names.length)).mapM (lookUp (pre ++ params ++ post)) =
      some (names.zip params) := by
  induction names generalizing pre params with
  | nil => rfl
  | cons name names ih =>
    cases params with
    | nil => cases h
    | cons p params =>
      have hrest := ih (pre ++ [p]) params (Nat.succ.inj h)
      have hlist : pre ++ [p] ++ params ++ post = pre ++ (p :: params) ++ post := by simp
      have hfirst : lookUp (pre ++ (p :: params) ++ post) (name, pre.length + 1) =
          some (name, p) := by simp [lookUp]
      rw [hlist, List.length_append, List.length_singleton] at hrest
      rw [List.length_cons, List.range'_succ, List.zip_cons_cons, List.mapM_cons, hfirst, hrest]
      rfl

/-- A statement whose markers are numbered from one on uses each parameter once. -/
theorem resolve_eq {α : Type} {params : List α} {r : Row Nat} {values : List (String × α)}
    {key : Option (String × α)}
    (hnumbers : (r.values ++ r.key.toList).map Prod.snd = List.range' 1 params.length)
    (hvalues : r.values.mapM (lookUp params) = some values)
    (hkey : r.key.mapM (lookUp params) = some key) :
    r.resolve params = some ⟨r.action, r.table, values, key⟩ := by
  have hused : ((r.values ++ r.key.toList).map Prod.snd).length = params.length ∧
      ∀ i < params.length, i + 1 ∈ (r.values ++ r.key.toList).map Prod.snd := by
    rw [hnumbers]
    refine ⟨by simp, fun i hi => ?_⟩
    rw [List.mem_range'_1]
    omega
  rw [Row.resolve, if_pos hused, hvalues, hkey]
  rfl

theorem resolve_insert {α : Type} (table : String) {names : List String} {params : List α}
    (h : names.length = params.length) :
    Row.resolve params ⟨.insert, table, counted names, none⟩ =
      some ⟨.insert, table, names.zip params, none⟩ := by
  have hvalues := mapM_lookUp [] params [] h
  rw [List.nil_append, List.append_nil] at hvalues
  refine resolve_eq (r := ⟨.insert, table, counted names, none⟩) ?_ hvalues rfl
  rw [Option.toList_none, List.append_nil, map_snd_counted, h]

/-- The key finds the last parameter, behind those of the columns. -/
theorem resolve_keyed {α : Type} (action : Action) (table key : String) {names : List String}
    {params : List α} (k : α) (h : names.length = params.length) :
    Row.resolve (params ++ [k]) ⟨action, table, counted names, some (key, names.length + 1)⟩ =
      some ⟨action, table, names.zip params, some (key, k)⟩ := by
  have hvalues := mapM_lookUp [] params [k] h
  rw [List.nil_append] at hvalues
  have hkey : lookUp (params ++ [k]) (key, names.length + 1) = some (key, k) := by
    simp [lookUp, h]
  refine resolve_eq (r := ⟨action, table, counted names, some (key, names.length + 1)⟩) ?_ hvalues
    (by rw [Option.mapM_some, hkey]; rfl)
  rw [Option.toList_some, List.map_append, map_snd_counted, List.length_append,
    List.length_singleton, List.range'_concat, h]
  simp [Nat.add_comm]

end Relvar.Sql
