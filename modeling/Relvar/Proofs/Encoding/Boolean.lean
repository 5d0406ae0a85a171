/-
Booleans in columns. A column has two sources of values: the default of its clause, and what is
stored when a row is written. What is stored for a boolean is always a bit or nothing. The default
is made of the literal alone, whatever the type of the field is; so a truth value, zero and one
come out as the bit that would be stored, and any other integer or text stands in the clause as it
was declared.
-/
import Relvar.Executor
import Relvar.Proofs.Compilation.Validity
import Relvar.Proofs.Sql.Table

set_option autoImplicit false

namespace Relvar

/-! ## Bits -/

/-- A truth value, zero or one. -/
def Value.IsBit (v : Value) : Prop :=
  (∃ b, v = .bool b) ∨ v.asInt? = some 0 ∨ v.asInt? = some 1

/-- Zero or one. -/
def ColumnDefault.IsBit (e : ColumnDefault) : Prop := e = .number 0 ∨ e = .number 1

/-- The value that a default puts into a row, unless that depends on the day. -/
def ColumnDefault.value? : ColumnDefault → Option Value
  | number n => some (.int n)
  | text s => some (.str s)
  | currentDate => none
  | currentTimestamp => none

namespace FieldType

theorem boolean_encode {v : Value} (h : v ≠ .null) :
    FieldType.boolean.encode v = .int (if v.isTruthy then 1 else 0) := by
  cases v with
  | null => exact absurd rfl h
  | _ => rfl

theorem boolean_encode_eq_null {v : Value} : FieldType.boolean.encode v = .null ↔ v = .null := by
  refine ⟨fun h => ?_, fun h => by rw [h]; rfl⟩
  by_contra hv
  rw [boolean_encode hv] at h
  cases h

theorem boolean_encode_bit {v : Value} (h : v ≠ .null) :
    FieldType.boolean.encode v = .int 0 ∨ FieldType.boolean.encode v = .int 1 := by
  rw [boolean_encode h]
  cases v.isTruthy with
  | false => exact .inl rfl
  | true => exact .inr rfl

end FieldType

/-! ## Literals -/

namespace Literal

variable {v : Value} {l : Literal}

/-- A literal is true exactly if the value that it was read from is. -/
theorem isTruthy_ofValue? (h : ofValue? v = some l) : v.isTruthy = l.toValue.isTruthy := by
  cases v with
  | semantic t =>
    obtain rfl := Option.some.inj h
    cases t <;> decide
  | member e base w =>
    cases base with
    | plain => cases h
    | text | integer =>
      cases w <;> cases h
      rfl
  | bool | int | str => cases h; rfl
  | _ => cases h

theorem boolean_encode (l : Literal) :
    FieldType.boolean.encode l.toValue = .int (if l.toValue.isTruthy then 1 else 0) := by
  cases l <;> rfl

theorem boolean_encode_ofValue? (h : ofValue? v = some l) :
    FieldType.boolean.encode v = FieldType.boolean.encode l.toValue := by
  have hv : v ≠ .null := by
    rintro rfl
    cases h
  rw [FieldType.boolean_encode hv, boolean_encode, isTruthy_ofValue? h]

theorem isBit_ofValue? (h : ofValue? v = some l) : v.IsBit ↔ l.toValue.IsBit := by
  cases v with
  | member e base w =>
    cases base with
    | plain => cases h
    | text | integer =>
      cases w <;> cases h
      simp [toValue, Value.IsBit, Value.asInt?]
  | semantic => cases h; simp [toValue, Value.IsBit, Value.asInt?]
  | bool | int | str => cases h; rfl
  | _ => cases h

end Literal

/-! ## Defaults -/

/-- What is given as the default of a boolean, and the default of its column: there is one if
something is given. It is a bit exactly if what is given is one, and then, and only then, it is
what would be stored for the value that is given. -/
inductive BooleanDefault : Option Value → Option ColumnDefault → Prop
  | absent : BooleanDefault none none
  | present {v : Value} {e : ColumnDefault} (bit : e.IsBit ↔ v.IsBit)
      (stored : e.value? = some (FieldType.boolean.encode v) ↔ v.IsBit) :
      BooleanDefault (some v) (some e)

/-- The clause of a boolean of a name: an integer column with a default for what is given. -/
def BooleanClause (name : String) (given : Option Value) (clause : String) : Prop :=
  ∃ column : Column, clause = column.clause ∧ column.name = name ∧ column.type = .integer ∧
    BooleanDefault given column.default

/-- The default of a field as a value, if it has one. -/
def Field.given (f : Field) : Option Value :=
  if f.hasDefault then f.default.map Literal.toValue else none

namespace BooleanDefault

theorem of_literal {f : Field} {l : Literal} {e : ColumnDefault} (ht : f.type = .boolean)
    (hl : f.default = some l) (he : f.columnDefault = .ok e) :
    BooleanDefault (some l.toValue) (some e) := by
  rw [Field.columnDefault, hl] at he
  cases l with
  | bool b =>
    obtain rfl := Except.ok.inj he
    have hbit : (Literal.bool b).toValue.IsBit := .inl ⟨b, rfl⟩
    cases b with
    | false => exact .present (iff_of_true (.inl rfl) hbit) (iff_of_true rfl hbit)
    | true => exact .present (iff_of_true (.inr rfl) hbit) (iff_of_true rfl hbit)
  | int n =>
    obtain rfl := Except.ok.inj he
    have hbit : (Literal.int n).toValue.IsBit ↔ n = 0 ∨ n = 1 := by
      simp [Literal.toValue, Value.IsBit, Value.asInt?]
    have hencode : FieldType.boolean.encode (Literal.int n).toValue =
        .int (if n = 0 then 0 else 1) := by
      rw [Literal.boolean_encode]
      by_cases hn : n = 0 <;> simp [Literal.toValue, Value.isTruthy, hn]
    refine .present ?_ ?_
    · rw [hbit, ColumnDefault.IsBit, ColumnDefault.number.injEq, ColumnDefault.number.injEq]
    · rw [hbit, hencode, ColumnDefault.value?, Option.some.injEq, Value.int.injEq]
      split <;> omega
  | str s =>
    -- The keyword for the present is refused here, so what is left is quoted text.
    obtain rfl : ColumnDefault.text s = e := by
      by_cases hs : s = nowKeyword
      · simp [hs, ht] at he
      · simpa [hs] using he
    have hbit : ¬ (Literal.str s).toValue.IsBit := by
      simp [Literal.toValue, Value.IsBit, Value.asInt?]
    refine .present (iff_of_false ?_ hbit) (iff_of_false ?_ hbit)
    · rintro (h | h) <;> cases h
    · rw [Literal.boolean_encode]
      intro h
      cases h

/-- Only the literal counts, and not the value that it was spelled by. -/
theorem of_value {v : Value} {l : Literal} {e : Option ColumnDefault}
    (h : BooleanDefault (some l.toValue) e) (hv : Literal.ofValue? v = some l) :
    BooleanDefault (some v) e := by
  cases h with
  | present bit stored =>
    refine .present (bit.trans (Literal.isBit_ofValue? hv).symm) ?_
    rw [Literal.boolean_encode_ofValue? hv, Literal.isBit_ofValue? hv]
    exact stored

end BooleanDefault

namespace Field

variable {settings : CompilerSettings} {x : FieldDecl} {f : Field} {clause : String}

/-- The clause of a boolean that is written. -/
theorem ownClause_boolean (ht : f.type = .boolean) (h : f.ownClause settings = .ok clause) :
    BooleanClause f.name f.given clause := by
  rw [ownClause_eq] at h
  obtain ⟨stored, hstored, rfl⟩ := Except.map_eq_ok.mp h
  refine ⟨f.ownColumn settings stored, rfl, rfl, by rw [ownColumn, ht]; rfl, ?_⟩
  cases hhas : f.hasDefault with
  | false =>
    rw [hhas] at hstored
    rw [given, hhas, ownColumn, ← Except.ok.inj hstored]
    exact .absent
  | true =>
    rw [hhas, if_pos rfl] at hstored
    obtain ⟨e, he, rfl⟩ := Except.map_eq_ok.mp hstored
    cases hl : f.default with
    | none => simp [columnDefault, hl] at he
    | some l =>
      rw [given, hhas, hl]
      exact .of_literal ht hl he

/-- What a field is given is what is said in its declaration. -/
theorem IsExtractOf.clause_boolean (hx : f.IsExtractOf x)
    (h : BooleanClause f.name f.given clause) :
    BooleanClause x.name (Modifier.said x.modifiers "default") clause := by
  obtain ⟨column, rfl, hname, htype, hdefault⟩ := h
  refine ⟨column, rfl, hname.trans hx.name, htype, ?_⟩
  cases hs : Modifier.said x.modifiers "default" with
  | none =>
    rw [given, hx.default_eq_none hs] at hdefault
    exact hdefault
  | some v =>
    obtain ⟨l, hl, hhas, hf⟩ := hx.default_eq_some hs
    rw [given, hhas, hf] at hdefault
    exact hdefault.of_value hl

end Field

/-! ## Compiled models -/

/-- A field that is declared to be a boolean. -/
def FieldDecl.IsBoolean (x : FieldDecl) : Prop :=
  ∃ nullable, TypeName.Reads x.type .boolean nullable

/-- **Booleans as bits.** What is stored for a boolean is nothing for nothing, and a bit for any
other value. In the table of a compiled model each boolean is an integer column, with a default if
one was given: a bit if a bit was given, the one that would be stored for it, and otherwise neither
a bit nor what would be stored. -/
theorem boolean_stored (settings : CompilerSettings) (c : Compiled) (s : Session) :
    (∀ v, (FieldType.boolean.encode v = .null ↔ v = .null) ∧
      (v ≠ .null →
        FieldType.boolean.encode v = .int 0 ∨ FieldType.boolean.encode v = .int 1)) ∧
    (∀ source name, ((Compiler.compile settings source name).run s).1 = .ok c →
      ∃ d clauses, ModelDecl.ofSource source name = .ok d ∧
        c.table = createTable d.name.text clauses ∧
        List.Forall₂ (fun (x : FieldDecl) clause => x.IsBoolean →
          BooleanClause x.name (Modifier.said x.modifiers "default") clause) d.fields clauses) ∧
    ∀ d, ((Compiler.compileDefinition settings d).run s).1 = .ok c →
      ∃ clauses, c.table = createTable d.name clauses ∧
        List.Forall₂ (fun (f : Field) clause => f.type = .boolean →
          BooleanClause f.name f.given clause) d.fields clauses := by
  refine ⟨fun v => ⟨FieldType.boolean_encode_eq_null, FieldType.boolean_encode_bit⟩,
    fun source name hc => ?_, fun d hc => ?_⟩
  · obtain ⟨d, fs, hd, hfs, hmodel⟩ := (compiled_isModelOf settings c).1 source name s hc
    obtain ⟨clauses, htable, hclauses⟩ := hmodel.table
    refine ⟨d, clauses, hd, htable, (forall₂_trans hfs hclauses).imp ?_⟩
    rintro x clause ⟨f, hf, hclause⟩ ⟨nullable, hboolean⟩
    have hx := Field.extract_eq_ok hf
    have ht : f.type = .boolean := (hx.type.unique hboolean).1
    exact hx.clause_boolean (Field.ownClause_boolean ht hclause)
  · obtain ⟨clauses, htable, hclauses⟩ := ((compiled_isModelOf settings c).2 d s hc).table
    exact ⟨clauses, htable, hclauses.imp fun f clause hclause ht =>
      Field.ownClause_boolean ht hclause⟩

/-! ## A sample -/

/-- Fields of which two are booleans with a default: an integer that is no bit, and a bit. -/
def usersSource : Value :=
  .list [.tuple [.str "id", .str "Integer", .dict [(.str "primary_key", .bool true)]],
    .tuple [.str "active", .str "Boolean", .dict [(.str "default", .int 5)]],
    .tuple [.str "admin", .str "Boolean", .dict [(.str "default", .bool true)]]]

/-- What the sample is compiled to. -/
def users : Compiled where
  model := "users"
  table := "create table if not exists users (id integer primary key, " ++
    "active integer default 5 not null, admin integer default 1 not null);"
  key := some ⟨"id", .supplied⟩
  arguments := ⟨["id"], ["active", "admin"]⟩
  delete := "delete from users where id=?1;"
  definition := ⟨"users", [
    { Field.plain "id" .integer false with isPrimaryKey := true },
    { Field.plain "active" .boolean false with hasDefault := true, default := some (.int 5) },
    { Field.plain "admin" .boolean false with hasDefault := true, default := some (.bool true) }]⟩

theorem compile_users (s : Session) :
    ((Compiler.compile .default usersSource (.str "users")).run s).1 = .ok users := by
  rw [(Compiler.compile_answers _ _ _).outcome s]
  exact Except.eq_ok_of_toOption (by decide +kernel)

theorem compileDefinition_users (s : Session) :
    ((Compiler.compileDefinition .default users.definition).run s).1 = .ok users := by
  rw [(Compiler.compileDefinition_answers _ _).outcome s]
  exact Except.eq_ok_of_toOption (by decide +kernel)

theorem boolean_stored_users :
    (Value.str "no" ≠ .null ∧ (FieldType.boolean.encode (.str "no") = .int 0 ∨
      FieldType.boolean.encode (.str "no") = .int 1)) ∧
    (((Compiler.compile .default usersSource (.str "users")).run calmSession).1 = .ok users ∧
      ∃ d clauses, ModelDecl.ofSource usersSource (.str "users") = .ok d ∧
        users.table = createTable d.name.text clauses ∧
        List.Forall₂ (fun (x : FieldDecl) clause => x.IsBoolean →
          BooleanClause x.name (Modifier.said x.modifiers "default") clause) d.fields clauses) ∧
    ((Compiler.compileDefinition .default users.definition).run calmSession).1 = .ok users ∧
      ∃ clauses, users.table = createTable "users" clauses ∧
        List.Forall₂ (fun (f : Field) clause => f.type = .boolean →
          BooleanClause f.name f.given clause) users.definition.fields clauses :=
  have h := boolean_stored .default users calmSession
  ⟨⟨nofun, (h.1 (.str "no")).2 nofun⟩,
    ⟨compile_users calmSession, h.2.1 usersSource (.str "users") (compile_users calmSession)⟩,
    compileDefinition_users calmSession,
    h.2.2 users.definition (compileDefinition_users calmSession)⟩

/-- A boolean defaults to five in the table that is created, and five is stored as one when a row
is written. -/
theorem users_defaultFive :
    ((Compiler.compile .default usersSource (.str "users")).run calmSession).1 = .ok users ∧
      (Sql.readTable users.table).map (fun t =>
          t.2.map fun column => (column.name, column.default)) =
        some [("id", none), ("active", some (.number 5)), ("admin", some (.number 1))] ∧
      ¬ (ColumnDefault.number 5).IsBit ∧ FieldType.boolean.encode (.int 5) = .int 1 :=
  ⟨compile_users calmSession, by decide +kernel, by simp [ColumnDefault.IsBit], rfl⟩

end Relvar
