/-
The statement that creates a table, read back. A reader of its grammar takes the name
of the table and, clause by clause, everything that is said of a column; what a
compiled model writes there is read as the columns of its fields, whatever the texts
of their defaults contain.
-/
import Relvar.Proofs.Compilation.Result
import Relvar.Proofs.Sql.Lexeme

set_option autoImplicit false

namespace Relvar.Sql

/-! ## Reader -/

/-- The natural number of a word that is made of digits. -/
def natOf? (s : String) : Option Nat :=
  if s ≠ "" ∧ s.toList.all Char.isDigit then some (Scanner.valueOf s.toList) else none

/-- An integer. -/
def readInt : List Token → Option (Int × List Token)
  | .sign '-' :: .word s :: ts => (natOf? s).map fun (n : Nat) => (-(n : Int), ts)
  | .word s :: ts => (natOf? s).map fun (n : Nat) => ((n : Int), ts)
  | _ => none

/-- The type of a column. -/
def readType : List Token → Option (ColumnType × List Token)
  | .word "serial" :: ts => some (.serial, ts)
  | .word "integer" :: ts => some (.integer, ts)
  | .word "float" :: ts => some (.float, ts)
  | .word "text" :: ts => some (.text, ts)
  | .word "varchar" :: .sign '(' :: ts =>
    match readInt ts with
    | some (n, .sign ')' :: ts) => some (.varchar n, ts)
    | _ => none
  | _ => none

/-- Whether keywords stand here. -/
def readFlag (keywords : List String) (ts : List Token) : Bool × List Token :=
  if keywords.map .word <+: ts then (true, ts.drop keywords.length) else (false, ts)

/-- The default of a column, if it has one. -/
def readDefault : List Token → Option (Option ColumnDefault × List Token)
  | .word "default" :: .text s :: ts => some (some (.text s), ts)
  | .word "default" :: .word "current_date" :: ts => some (some .currentDate, ts)
  | .word "default" :: .word "current_timestamp" :: ts => some (some .currentTimestamp, ts)
  | .word "default" :: ts => (readInt ts).map fun (n, ts) => (some (.number n), ts)
  | ts => some (none, ts)

/-- The column that a column refers to, if it refers to one. -/
def readReference : List Token → Option (Option Reference × List Token)
  | .word "references" :: .word t :: .sign '(' :: .word c :: .sign ')' :: ts =>
    some (some ⟨t, c⟩, ts)
  | .word "references" :: _ => none
  | ts => some (none, ts)

/-- The clause of a column. -/
def readColumn : List Token → Option (Column × List Token)
  | .word name :: ts => do
    let (type, ts) ← readType ts
    let (isKey, ts) := readFlag ["primary", "key"] ts
    let (isCounted, ts) := if isKey then readFlag ["autoincrement"] ts else (false, ts)
    let (isUnique, ts) := readFlag ["unique"] ts
    let (default, ts) ← readDefault ts
    let (refusesNull, ts) := readFlag ["not", "null"] ts
    let (reference, ts) ← readReference ts
    return (⟨name, type, isKey, isCounted, isUnique, default, refusesNull, reference⟩, ts)
  | _ => none

/-- The table that a statement creates: its name and its columns. -/
def readTable (statement : String) : Option (String × List Column) := do
  match ← tokens none statement with
  | .word "create" :: .word "table" :: .word "if" :: .word "not" :: .word "exists" ::
      .word name :: .sign '(' :: ts =>
    match ← items readColumn ts with
    | (columns, [.sign ')', .sign ';']) => return (name, columns)
    | _ => none
  | _ => none

/-! ## Columns as lexemes -/

/-- The lexemes of an integer. -/
def integerLexemes : Int → List Lexeme
  | .ofNat n => [.word (Decimal.ofNat n)]
  | .negSucc n => [.sign '-', .word (Decimal.ofNat (n + 1))]

/-- The lexemes of the type of a column. -/
def typeLexemes : ColumnType → List Lexeme
  | .serial => [.word "serial"]
  | .integer => [.word "integer"]
  | .float => [.word "float"]
  | .text => [.word "text"]
  | .varchar n => .word "varchar" :: .sign '(' :: (integerLexemes n ++ [.sign ')'])

/-- The lexemes of keywords, if they stand there. -/
def flagLexemes (keywords : List String) (b : Bool) : List (List Lexeme) :=
  if b then [[Lexeme.blank].intercalate (keywords.map fun k => [.word k])] else []

/-- The lexemes of a default. -/
def defaultLexemes : ColumnDefault → List Lexeme
  | .number n => .word "default" :: .blank :: integerLexemes n
  | .text s => [.word "default", .blank, .text s]
  | .currentDate => [.word "default", .blank, .word "current_date"]
  | .currentTimestamp => [.word "default", .blank, .word "current_timestamp"]

/-- The lexemes of a reference. -/
def referenceLexemes (r : Reference) : List Lexeme :=
  [.word "references", .blank, .word r.table, .sign '(', .word r.column, .sign ')']

/-- The lexemes of the parts of a clause. -/
def partLexemes (c : Column) : List (List Lexeme) :=
  [[.word c.name], typeLexemes c.type] ++ flagLexemes ["primary", "key"] c.isKey ++
    flagLexemes ["autoincrement"] c.isCounted ++ flagLexemes ["unique"] c.isUnique ++
    (c.default.map defaultLexemes).toList ++ flagLexemes ["not", "null"] c.refusesNull ++
    (c.reference.map referenceLexemes).toList

/-- The lexemes of a clause. -/
def columnLexemes (c : Column) : List Lexeme := [Lexeme.blank].intercalate (partLexemes c)

/-- The lexemes of the statement that creates a table. -/
def tableLexemes (name : String) (cs : List Column) : List Lexeme :=
  [Lexeme.word "create", .blank, .word "table", .blank, .word "if", .blank, .word "not", .blank,
    .word "exists", .blank, .word name, .blank, .sign '('] ++
    (comma.intercalate (cs.map columnLexemes) ++ [Lexeme.sign ')', .sign ';'])

/-! ## Writing -/

theorem toList_ofInt (n : Int) : (Decimal.ofInt n).toList = written (integerLexemes n) := by
  cases n <;> simp [Decimal.ofInt, integerLexemes, Lexeme.chars, Decimal.ofNat]

theorem toList_type (t : ColumnType) : t.clause.toList = written (typeLexemes t) := by
  cases t with
  | varchar n =>
    have hclause : (ColumnType.varchar n).clause = "varchar(" ++ Decimal.ofInt n ++ ")" := rfl
    rw [hclause]
    simp [typeLexemes, toList_ofInt, Lexeme.chars]
  | _ => decide

theorem toList_default (d : ColumnDefault) : d.clause.toList = written (defaultLexemes d) := by
  cases d with
  | number n => simp [ColumnDefault.clause, defaultLexemes, toList_ofInt, Lexeme.chars]
  | text s => simp [ColumnDefault.clause, defaultLexemes, Lexeme.chars]
  | _ => decide

theorem toList_reference (r : Reference) : r.clause.toList = written (referenceLexemes r) := by
  have hclause : r.clause = "references " ++ r.table ++ "(" ++ r.column ++ ")" := rfl
  rw [hclause]
  simp [referenceLexemes, Lexeme.chars]

theorem map_written_flag (keywords : List String) (text : String) (b : Bool)
    (h : text.toList = written ([Lexeme.blank].intercalate (keywords.map fun k => [.word k]))) :
    (if b then [text] else []).map String.toList = (flagLexemes keywords b).map written := by
  cases b <;> simp [flagLexemes, h]

theorem toList_clause (c : Column) : c.clause.toList = written (columnLexemes c) := by
  have hdefault : (c.default.map ColumnDefault.clause).toList.map String.toList =
      (c.default.map defaultLexemes).toList.map written := by
    cases c.default <;> simp [toList_default]
  have hreference : (c.reference.map Reference.clause).toList.map String.toList =
      (c.reference.map referenceLexemes).toList.map written := by
    cases c.reference <;> simp [toList_reference]
  -- each part is there or not by a field of its own, so the two rows are compared part by part
  have hparts : c.parts.map String.toList = (partLexemes c).map written := by
    simp only [Column.parts, partLexemes, List.map_append, hdefault, hreference,
      map_written_flag ["primary", "key"] "primary key" c.isKey (by decide),
      map_written_flag ["autoincrement"] "autoincrement" c.isCounted (by decide),
      map_written_flag ["unique"] "unique" c.isUnique (by decide),
      map_written_flag ["not", "null"] "not null" c.refusesNull (by decide)]
    simp [toList_type, Lexeme.chars]
  rw [Column.clause, String.toList_intercalate, hparts, columnLexemes, written,
    flatMap_intercalate]
  rfl

theorem toList_createTable (name : String) (cs : List Column) :
    (createTable name (cs.map Column.clause)).toList = written (tableLexemes name cs) := by
  have htext : createTable name (cs.map Column.clause) =
      "create table if not exists " ++ name ++ " (" ++ ", ".intercalate (cs.map Column.clause) ++
        ");" := rfl
  have hclauses : (cs.map Column.clause).map String.toList =
      (cs.map columnLexemes).map written := by
    simp [toList_clause]
  rw [htext, tableLexemes, written, List.flatMap_append, List.flatMap_append, flatMap_intercalate]
  simp only [String.toList_append, String.toList_intercalate, hclauses]
  simp [comma, Lexeme.chars]

/-! ## Legibility -/

theorem legible_integer (n : Int) : Legible (integerLexemes n) := by
  cases n with
  | ofNat n => exact ⟨by simp [integerLexemes, Lexeme.Ok, isWord_ofNat], by simp [integerLexemes]⟩
  | negSucc n =>
    exact ⟨by simp [integerLexemes, Lexeme.Ok, isWord_ofNat, Lexeme.signs],
      by simp [integerLexemes, Lexeme.isSolid]⟩

theorem legible_type (t : ColumnType) : Legible (typeLexemes t) := by
  cases t with
  | varchar n =>
    have hopen : Legible [.word "varchar", .sign '('] := by decide
    have hclose : Legible [.sign ')'] := by decide
    exact hopen.append ((legible_integer n).append hclose (.inr (by simp [Lexeme.isSolid])))
      (.inl (by simp [Lexeme.isSolid]))
  | _ => decide

theorem legible_default (d : ColumnDefault) : Legible (defaultLexemes d) := by
  have hopen : Legible [.word "default", .blank] := by decide
  cases d with
  | number n => exact hopen.append (legible_integer n) (.inl (by simp [Lexeme.isSolid]))
  | text s =>
    have htext : Legible [.text s] := ⟨by simp [Lexeme.Ok], by simp⟩
    exact hopen.append htext (.inl (by simp [Lexeme.isSolid]))
  | _ => decide

theorem legible_reference {r : Reference} (ht : IsWord r.table) (hc : IsWord r.column) :
    Legible (referenceLexemes r) := by
  have hopen : IsWord "references" := by decide
  exact ⟨by simp [referenceLexemes, Lexeme.Ok, Lexeme.signs, hopen, ht, hc],
    by simp [referenceLexemes, Lexeme.isSolid]⟩

theorem legible_flag {keywords : List String}
    (h : Legible ([Lexeme.blank].intercalate (keywords.map fun k => [.word k]))) (b : Bool) :
    ∀ ls ∈ flagLexemes keywords b, Legible ls := by
  cases b
  · exact fun ls hls => nomatch hls
  · intro ls hls
    obtain rfl := List.mem_singleton.mp hls
    exact h

/-- A column whose names are words. -/
structure HasWords (c : Column) : Prop where
  name : IsWord c.name
  table : ∀ r ∈ c.reference, IsWord r.table
  column : ∀ r ∈ c.reference, IsWord r.column

theorem legible_column {c : Column} (h : HasWords c) : Legible (columnLexemes c) := by
  refine Legible.intercalate (.inl rfl) fun ls hls => ?_
  simp only [partLexemes, List.mem_append, or_assoc] at hls
  -- one case for each part of the clause, in the order in which the parts are written
  rcases hls with hls | hls | hls | hls | hls | hls | hls
  · rcases List.mem_cons.mp hls with rfl | hls
    · exact ⟨by simp [Lexeme.Ok, h.name], by simp⟩
    · exact List.mem_singleton.mp hls ▸ legible_type c.type
  · exact legible_flag (by decide) _ ls hls
  · exact legible_flag (by decide) _ ls hls
  · exact legible_flag (by decide) _ ls hls
  · obtain ⟨d, -, rfl⟩ := Option.map_eq_some_iff.mp (Option.mem_toList.mp hls)
    exact legible_default d
  · exact legible_flag (by decide) _ ls hls
  · obtain ⟨r, hr, rfl⟩ := Option.map_eq_some_iff.mp (Option.mem_toList.mp hls)
    exact legible_reference (h.table r hr) (h.column r hr)

theorem legible_table {name : String} {cs : List Column} (hname : IsWord name)
    (hcs : ∀ c ∈ cs, HasWords c) : Legible (tableLexemes name cs) := by
  have hopen : Legible [.word "create", .blank, .word "table", .blank, .word "if", .blank,
      .word "not", .blank, .word "exists", .blank] := by decide
  have hmodel : Legible [.word name, .blank, .sign '('] :=
    ⟨by simp [Lexeme.Ok, Lexeme.signs, hname], by simp [Lexeme.isSolid]⟩
  have hclose : Legible [.sign ')', .sign ';'] := by decide
  have hcolumns : Legible (comma.intercalate (cs.map columnLexemes)) := by
    refine Legible.intercalate (.inr rfl) fun ls hls => ?_
    obtain ⟨c, hc, rfl⟩ := List.mem_map.mp hls
    exact legible_column (hcs c hc)
  -- the pieces join at a blank or at a sign, so no two words run together
  exact (hopen.append hmodel (.inl (by simp [Lexeme.isSolid]))).append
    (hcolumns.append hclose (.inr (by simp [Lexeme.isSolid]))) (.inl (by simp [Lexeme.isSolid]))

/-! ## Reading -/

/-- The tokens of keywords, if they stand there. -/
def flagTokens (keywords : List String) (b : Bool) : List Token :=
  if b then keywords.map .word else []

/-- The tokens of a default, if there is one. -/
def defaultTokens (d : Option ColumnDefault) : List Token :=
  (d.map fun d => spelled (defaultLexemes d)).getD []

/-- The tokens of a reference, if there is one. -/
def referenceTokens (r : Option Reference) : List Token :=
  (r.map fun r => spelled (referenceLexemes r)).getD []

/-- The tokens of a clause. -/
def columnTokens (c : Column) : List Token :=
  .word c.name :: (spelled (typeLexemes c.type) ++ (flagTokens ["primary", "key"] c.isKey ++
    (flagTokens ["autoincrement"] c.isCounted ++ (flagTokens ["unique"] c.isUnique ++
      (defaultTokens c.default ++ (flagTokens ["not", "null"] c.refusesNull ++
        referenceTokens c.reference))))))

theorem flatten_flag (keywords : List String) {b : Bool}
    (h : spelled ([Lexeme.blank].intercalate (keywords.map fun k => [.word k])) =
      keywords.map .word) :
    ((flagLexemes keywords b).map spelled).flatten = flagTokens keywords b := by
  cases b <;> simp [flagLexemes, flagTokens, h]

/-- Blanks leave no tokens, so a clause is read as its parts in a row. -/
theorem spelled_column (c : Column) : spelled (columnLexemes c) = columnTokens c := by
  have hparts : spelled (columnLexemes c) = ((partLexemes c).map spelled).flatten := by
    rw [spelled, columnLexemes, flatMap_intercalate, ← intercalate_nil_left]
    rfl
  have hdefault : ((c.default.map defaultLexemes).toList.map spelled).flatten =
      defaultTokens c.default := by
    cases c.default <;> simp [defaultTokens]
  have hreference : ((c.reference.map referenceLexemes).toList.map spelled).flatten =
      referenceTokens c.reference := by
    cases c.reference <;> simp [referenceTokens]
  simp only [hparts, partLexemes, List.map_append, List.flatten_append, hdefault, hreference,
    flatten_flag ["primary", "key"] (by decide), flatten_flag ["autoincrement"] (by decide),
    flatten_flag ["unique"] (by decide), flatten_flag ["not", "null"] (by decide)]
  simp [columnTokens, Lexeme.tokens]

/-- What may follow a part of a clause: no word, or one of some. -/
def Follows (words : List String) (ts : List Token) : Prop :=
  ∀ s, ts.head? = some (.word s) → s ∈ words

theorem readFlag_flagTokens (k : String) (ks : List String) {words : List String}
    {ts : List Token} (b : Bool) (h : Follows words ts) (hk : k ∉ words) :
    readFlag (k :: ks) (flagTokens (k :: ks) b ++ ts) = (b, ts) := by
  cases b with
  | true =>
    have hpre : (k :: ks).map Token.word <+: (k :: ks).map Token.word ++ ts :=
      List.prefix_append _ _
    rw [flagTokens, if_pos rfl, readFlag, if_pos hpre]
    simp
  | false =>
    -- a keyword that is left out is not found in what follows
    have hpre : ¬ (k :: ks).map Token.word <+: ts := by
      rintro ⟨rest, rfl⟩
      exact hk (h k rfl)
    exact if_neg hpre

theorem follows_flagTokens (k : String) (ks : List String) {words : List String}
    {ts : List Token} (b : Bool) (h : Follows words ts) :
    Follows (k :: words) (flagTokens (k :: ks) b ++ ts) := by
  cases b with
  | true =>
    intro s hs
    obtain rfl : k = s := by simpa [flagTokens] using hs
    exact List.mem_cons_self
  | false => exact fun s hs => List.mem_cons_of_mem _ (h s hs)

theorem natOf?_ofNat (n : Nat) : natOf? (Decimal.ofNat n) = some n := by
  have hdigits : ∀ c ∈ (Decimal.ofNat n).toList, c.isDigit = true := by
    intro c hc
    rw [Decimal.ofNat, String.toList_ofList] at hc
    exact Decimal.isDigit_of_mem_digits hc
  rw [natOf?, if_pos ⟨(isWord_ofNat n).1, List.all_eq_true.mpr hdigits⟩, Decimal.ofNat,
    String.toList_ofList, Scanner.valueOf, Decimal.digits, Nat.ofDigitChars_ten_toDigits]

theorem readInt_integer (n : Int) (ts : List Token) :
    readInt (spelled (integerLexemes n) ++ ts) = some (n, ts) := by
  cases n with
  | ofNat n => simp [integerLexemes, Lexeme.tokens, readInt, natOf?_ofNat]
  | negSucc n =>
    have hneg : -((n + 1 : Nat) : Int) = Int.negSucc n := rfl
    simp only [integerLexemes, spelled, List.flatMap_cons, List.flatMap_nil, Lexeme.tokens,
      List.cons_append, List.nil_append, readInt, natOf?_ofNat, Option.map_some, hneg]

theorem readType_type (t : ColumnType) (ts : List Token) :
    readType (spelled (typeLexemes t) ++ ts) = some (t, ts) := by
  cases t with
  | varchar n =>
    have hint := readInt_integer n (.sign ')' :: ts)
    simp_all [typeLexemes, Lexeme.tokens, readType]
  | _ => rfl

/-- A default that is an integer is not taken for a keyword. -/
theorem readDefault_integer (n : Int) (ts : List Token) :
    readDefault (.word "default" :: (spelled (integerLexemes n) ++ ts)) =
      some (some (.number n), ts) := by
  have hint := readInt_integer n ts
  -- the keywords that a default may be are no numerals
  have hne : ∀ k s, natOf? s = none → Decimal.ofNat k ≠ s := by
    rintro k _ hs rfl
    rw [natOf?_ofNat] at hs
    cases hs
  cases n with
  | ofNat n =>
    have hdate := hne n "current_date" (by decide)
    have hmoment := hne n "current_timestamp" (by decide)
    simp_all [integerLexemes, Lexeme.tokens, readDefault]
  | negSucc n => simp_all [integerLexemes, Lexeme.tokens, readDefault]

theorem readDefault_default {words : List String} {ts : List Token} (d : Option ColumnDefault)
    (h : Follows words ts) (hk : "default" ∉ words) :
    readDefault (defaultTokens d ++ ts) = some (d, ts) := by
  cases d with
  | none =>
    -- without a default no keyword for one follows
    have hne : ∀ us, ts ≠ .word "default" :: us := by
      rintro us rfl
      exact hk (h "default" rfl)
    show readDefault ts = some (none, ts)
    unfold readDefault
    split <;> first | rfl | exact absurd rfl (hne _)
  | some d =>
    cases d with
    | number n => exact readDefault_integer n ts
    | _ => rfl

theorem follows_default {words : List String} {ts : List Token} (d : Option ColumnDefault)
    (h : Follows words ts) : Follows ("default" :: words) (defaultTokens d ++ ts) := by
  cases d with
  | none => exact fun s hs => List.mem_cons_of_mem _ (h s hs)
  | some d =>
    intro s hs
    obtain rfl : "default" = s := by
      cases d <;> simpa [defaultTokens, defaultLexemes, Lexeme.tokens] using hs
    exact List.mem_cons_self

theorem readReference_reference {words : List String} {ts : List Token} (r : Option Reference)
    (h : Follows words ts) (hk : "references" ∉ words) :
    readReference (referenceTokens r ++ ts) = some (r, ts) := by
  cases r with
  | none =>
    have hne : ∀ us, ts ≠ .word "references" :: us := by
      rintro us rfl
      exact hk (h "references" rfl)
    show readReference ts = some (none, ts)
    unfold readReference
    split <;> first | rfl | exact absurd rfl (hne _)
  | some r => rfl

theorem follows_reference {words : List String} {ts : List Token} (r : Option Reference)
    (h : Follows words ts) : Follows ("references" :: words) (referenceTokens r ++ ts) := by
  cases r with
  | none => exact fun s hs => List.mem_cons_of_mem _ (h s hs)
  | some r =>
    intro s hs
    obtain rfl : "references" = s := by
      simpa [referenceTokens, referenceLexemes, Lexeme.tokens] using hs
    exact List.mem_cons_self

/-- The keyword of a key that is counted up is looked for only behind a key. -/
theorem readCounted {c : Column} {words : List String} {ts : List Token}
    (hcount : c.isCounted = true → c.isKey = true) (h : Follows words ts)
    (hk : "autoincrement" ∉ words) :
    (if c.isKey = true then readFlag ["autoincrement"]
        (flagTokens ["autoincrement"] c.isCounted ++ ts)
      else (false, flagTokens ["autoincrement"] c.isCounted ++ ts)) = (c.isCounted, ts) := by
  cases hkey : c.isKey with
  | true => exact readFlag_flagTokens "autoincrement" [] _ h hk
  | false =>
    have hcounted : c.isCounted = false := by
      rw [← Bool.not_eq_true]
      exact fun hc => by simp [hcount hc] at hkey
    rw [hcounted]
    rfl

/-- A clause is read as its column, if no word follows it. Each part is followed by
parts that start with other keywords than its own. -/
theorem readColumn_column {c : Column} {ts : List Token}
    (hcount : c.isCounted = true → c.isKey = true) (h : Follows [] ts) :
    readColumn (columnTokens c ++ ts) = some (c, ts) := by
  -- from the last part to the first: what follows a part is known once the parts behind it are
  have hreference := follows_reference c.reference h
  have hnull := follows_flagTokens "not" ["null"] c.refusesNull hreference
  have hdefault := follows_default c.default hnull
  have hunique := follows_flagTokens "unique" [] c.isUnique hdefault
  have hcounted := follows_flagTokens "autoincrement" [] c.isCounted hunique
  have readKey := readFlag_flagTokens "primary" ["key"] c.isKey hcounted (by decide)
  have readCounted := readCounted hcount hunique (by decide)
  have readUnique := readFlag_flagTokens "unique" [] c.isUnique hdefault (by decide)
  have readDefault := readDefault_default c.default hnull (by decide)
  have readNull := readFlag_flagTokens "not" ["null"] c.refusesNull hreference (by decide)
  have readReference := readReference_reference c.reference h (by decide)
  simp only [columnTokens, List.cons_append, List.append_assoc, readColumn, readType_type,
    Option.bind_eq_bind, Option.bind_some, readKey, readCounted, readUnique, readDefault, readNull,
    readReference]
  rfl

/-- **Reading a table undoes writing it.** -/
theorem readTable_createTable {name : String} {cs : List Column} (hname : IsWord name)
    (hne : cs ≠ []) (hcs : ∀ c ∈ cs, HasWords c)
    (hcount : ∀ c ∈ cs, c.isCounted = true → c.isKey = true) :
    readTable (createTable name (cs.map Column.clause)) = some (name, cs) := by
  -- the reader goes by tokens, so the text is first brought into lexemes
  have htext : createTable name (cs.map Column.clause) =
      String.ofList (written (tableLexemes name cs)) := by
    rw [← toList_createTable, String.ofList_toList]
  have hclauses : spelled (comma.intercalate (cs.map columnLexemes)) =
      [Token.sign ','].intercalate (cs.map columnTokens) := by
    have hrows : (cs.map columnLexemes).map spelled = cs.map columnTokens := by
      simp only [List.map_map, Function.comp_def, spelled_column]
    rw [spelled, flatMap_intercalate, hrows]
    rfl
  have hspelled : spelled (tableLexemes name cs) =
      Token.word "create" :: .word "table" :: .word "if" :: .word "not" :: .word "exists" ::
        .word name :: .sign '(' ::
        ([Token.sign ','].intercalate (cs.map columnTokens) ++ [Token.sign ')', .sign ';']) := by
    rw [← hclauses]
    simp [tableLexemes, Lexeme.tokens]
  have hread : items readColumn ([Token.sign ','].intercalate (cs.map columnTokens) ++
      [Token.sign ')', .sign ';']) = some (cs, [Token.sign ')', .sign ';']) :=
    items_intercalate readColumn columnTokens (Follows []) hne (by simp [columnTokens])
      (fun ts s hs => by simp at hs) (fun c hc ts hts => readColumn_column (hcount c hc) hts)
      (fun s hs => by simp at hs) (fun ts => by simp)
  rw [readTable, htext, (legible_table hname hcs).tokens]
  simp only [Option.bind_eq_bind, Option.bind_some, hspelled, hread]
  rfl

end Relvar.Sql

namespace Relvar

/-! ## Compiled models -/

/-- The default that the column of a field stores: the text or the number that is
declared, one or zero for a boolean, and the present for its keyword. -/
def Field.storedDefault (f : Field) : Option ColumnDefault :=
  if f.hasDefault then
    match f.default with
    | some (.bool b) => some (.number (if b then 1 else 0))
    | some (.int n) => some (.number n)
    | some (.str s) =>
      if s = "now" then some (if f.type = .date then .currentDate else .currentTimestamp)
      else some (.text s)
    | none => none
  else none

theorem Field.columnDefault_eq_ok {f : Field} {d : ColumnDefault} (hd : f.hasDefault = true)
    (h : f.columnDefault = .ok d) : f.storedDefault = some d := by
  rw [storedDefault, if_pos hd]
  unfold columnDefault at h
  cases hdefault : f.default with
  | none => simp [hdefault] at h
  | some l =>
    cases l with
    | bool b => simpa [hdefault] using h
    | int n => simpa [hdefault] using h
    | str s =>
      -- only the keyword for the present is looked at together with the type
      by_cases hs : s = nowKeyword
      · cases ht : f.type <;> simp_all [nowKeyword]
      · simp_all [nowKeyword]

/-- The clause of a field is the clause of its column. -/
theorem Field.ownClause_eq_ok {settings : CompilerSettings} {f : Field} {clause : String}
    (h : f.ownClause settings = .ok clause) :
    clause = (f.ownColumn settings f.storedDefault).clause := by
  rw [ownClause_eq] at h
  obtain ⟨d, hd, rfl⟩ := Except.map_eq_ok.mp h
  cases hhas : f.hasDefault with
  | false =>
    rw [hhas] at hd
    have hstored : f.storedDefault = none := by rw [storedDefault, hhas]; rfl
    rw [hstored, ← Except.ok.inj hd]
  | true =>
    rw [hhas] at hd
    obtain ⟨d', hd', rfl⟩ := Except.map_eq_ok.mp hd
    rw [columnDefault_eq_ok hhas hd']

/-- **The table of a compiled model.** A reader of the grammar finds in the statement
that creates the table the name of the model and, for each of its fields in order,
all that the field says of its column. -/
theorem readTable_compiled {settings : CompilerSettings} {c : Compiled}
    (h : Compiler.Makes settings c) (hmodel : Sql.IsWord c.model)
    (hfields : ∀ f ∈ c.definition.fields, Sql.IsWord f.name ∧
      ∀ r ∈ f.reference, Sql.IsWord r.table ∧ Sql.IsWord r.column) :
    Sql.readTable c.table = some (c.model, c.definition.fields.map fun f => {
      name := f.name
      type := f.type.columnType f.size settings.stringSize
      isKey := f.isPrimaryKey
      isCounted := f.isPrimaryKey && f.isAuto
      isUnique := f.isUnique
      default := f.storedDefault
      refusesNull := !f.nullable && !f.isPrimaryKey
      reference := f.reference }) := by
  obtain ⟨hne, hof⟩ := h.isModelOf
  obtain ⟨clauses, htable, hclauses⟩ := hof.table
  have hcolumns : clauses = (c.definition.fields.map fun f =>
      f.ownColumn settings f.storedDefault).map Column.clause := by
    have hall : List.Forall₂
        (fun f clause => clause = (f.ownColumn settings f.storedDefault).clause)
        c.definition.fields clauses := hclauses.imp fun _ _ hf => Field.ownClause_eq_ok hf
    rw [List.map_map]
    exact List.forall₂_eq_eq_eq ▸ List.forall₂_map_right_iff.mpr hall.flip
  have htext : c.table = createTable c.model clauses := htable
  rw [htext, hcolumns]
  refine Sql.readTable_createTable hmodel (by simpa using hne) ?_ ?_
  · intro column hcolumn
    obtain ⟨f, hf, rfl⟩ := List.mem_map.mp hcolumn
    obtain ⟨hname, hreference⟩ := hfields f hf
    exact ⟨hname, fun r hr => (hreference r hr).1, fun r hr => (hreference r hr).2⟩
  · intro column hcolumn
    obtain ⟨f, -, rfl⟩ := List.mem_map.mp hcolumn
    exact fun hcounted => (Bool.and_eq_true_iff.mp hcounted).1

theorem isWord_visits : Sql.IsWord visits.model ∧ ∀ f ∈ visits.definition.fields,
    Sql.IsWord f.name ∧ ∀ r ∈ f.reference, Sql.IsWord r.table ∧ Sql.IsWord r.column := by
  decide

/-- The default of the sample's first column holds a quote, a comma, keywords and what
ends the statement. -/
theorem readTable_visits :
    (Compiler.Makes .default visits ∧ Sql.IsWord visits.model ∧
      ∀ f ∈ visits.definition.fields, Sql.IsWord f.name ∧
        ∀ r ∈ f.reference, Sql.IsWord r.table ∧ Sql.IsWord r.column) ∧
    Sql.readTable visits.table = some ("visits", [
      ⟨"note", .text, false, false, false, some (.text "it's, not null);"), false, none⟩,
      ⟨"id", .serial, true, false, false, none, false, none⟩,
      ⟨"owner", .integer, false, false, true, none, true, some ⟨"people", "id"⟩⟩,
      ⟨"seen", .varchar 40, false, false, false, some .currentTimestamp, true, none⟩,
      ⟨"done", .integer, false, false, false, none, true, none⟩]) :=
  ⟨⟨makes_visits, isWord_visits⟩, readTable_compiled makes_visits isWord_visits.1 isWord_visits.2⟩

end Relvar
