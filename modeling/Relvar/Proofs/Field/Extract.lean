/-
What extraction makes of a declared field. Each part of the field is what the modifier under its
name says, and is missing if none says anything; only the size of a field that is no string is left
out. So a field has a default exactly if it is said to have one, a literal of the same kind as the
value that was given, and building the field anew from the given values accepts all of them and
changes none. The default and the column of such a field can be written down, with one exception: a
field that defaults to the present has to be temporal.
-/
import Relvar.Field.Parts
import Relvar.Proofs.Compilation.Validity

set_option autoImplicit false

namespace Relvar

/-! ## Literals -/

/-- What holds of an integer and of a member whose value is an integer holds of every integer. -/
theorem Value.asInt?_cases {P : Value → Int → Prop} (int : ∀ n, P (.int n) n)
    (member : ∀ e n, P (.member e .integer (.int n)) n) {v : Value} {n : Int}
    (h : v.asInt? = some n) : P v n := by
  cases v with
  | int m => exact Option.some.inj h ▸ int m
  | member e base w =>
    cases base with
    | integer =>
      cases w with
      | int m => exact Option.some.inj h ▸ member e m
      | _ => cases h
    | _ => cases h
  | _ => cases h

namespace Literal

/-- A literal is a value: both are booleans, both are integers or both are text, and they are the
same one. -/
inductive Is : Literal → Value → Prop
  | bool (b : Bool) : Is (.bool b) (.bool b)
  | int {v : Value} {n : Int} (integer : v.asInt? = some n) : Is (.int n) v
  | str {v : Value} {s : String} (text : v.asText? = some s) : Is (.str s) v

variable {v : Value} {l : Literal}

theorem ofValue?_eq_some : ofValue? v = some l ↔ l.Is v := by
  constructor
  · intro h
    -- a truth value is one of its own and never a number, although it counts as one elsewhere
    cases v with
    | bool b =>
      obtain rfl := Option.some.inj h
      exact .bool b
    | _ =>
      simp only [ofValue?] at h
      split at h
      · next hs => exact Option.some.inj h ▸ .str hs
      · next hn => exact Option.some.inj h ▸ .int hn
      · cases h
  · intro h
    cases h with
    | bool b => rfl
    | int integer =>
      exact Value.asInt?_cases (P := fun v n => ofValue? v = some (.int n)) (fun _ => rfl)
        (fun _ _ => rfl) integer
    | str text =>
      exact Value.asText?_cases (P := fun v s => ofValue? v = some (.str s)) (fun _ => rfl)
        (fun _ => rfl) (fun _ _ => rfl) text

/-- True and one are equal, and still two literals. -/
example : (Value.bool true).sameKey (.int 1) = true ∧
    ofValue? (.bool true) = some (.bool true) ∧ ofValue? (.int 1) = some (.int 1) := by
  decide

/-- A literal equals the value that it is. -/
theorem Is.sameKey (h : l.Is v) : l.toValue.sameKey v = true := by
  cases h with
  | bool b =>
    rw [toValue, Value.sameKey] <;> simp [Value.sameAtom, Value.asNumber?, Value.sameNumber]
  | @int _ n integer =>
    -- the comparison of numbers goes by what they count, so the kind of the value does not matter
    have hsame : (Value.int n).sameKey v = (Value.int n).sameAtom v := by
      rw [Value.sameKey] <;> simp
    have hnumber : v.asNumber? = some (.inl n) :=
      Value.asInt?_cases (P := fun v n => v.asNumber? = some (.inl n)) (fun _ => rfl)
        (fun _ _ => rfl) integer
    have hone : (Value.int n).asNumber? = some (.inl n) := rfl
    rw [toValue, hsame, Value.sameAtom.eq_def]
    simp only [hone, hnumber]
    exact beq_self_eq_true n
  | str text => exact Value.sameKey_str text

end Literal

/-! ## Fields as declared -/

/-- A reference is a value: the text of a table and a column, neither of them empty, with the only
point between them. -/
structure Reference.Is (r : Reference) (v : Value) : Prop where
  text : v.asText? = some (r.table ++ "." ++ r.column)
  table_ne : r.table ≠ ""
  column_ne : r.column ≠ ""
  table_point : '.' ∉ r.table.toList
  column_point : '.' ∉ r.column.toList

theorem Reference.is_of_text {r : Reference} {v : Value}
    (h : v.asText?.bind ofText? = some r) : r.Is v := by
  obtain ⟨s, hs, hr⟩ := Option.bind_eq_some_iff.mp h
  obtain ⟨rfl, htable, hcolumn, htpoint, hcpoint⟩ := ofText?_eq_some.mp hr
  exact ⟨hs, htable, hcolumn, htpoint, hcpoint⟩

open Modifier (said)

/-- What is read from a value that may be missing is there exactly if the value is, if every value
that may be there can be read. -/
theorem rel_bind {α β : Type} {R : α → β → Prop} {read : β → Option α} {given : Option β}
    (h : ∀ v, given = some v → ∃ a, read v = some a ∧ R a v) :
    Option.Rel R (given.bind read) given := by
  cases given with
  | none => exact .none
  | some v =>
    obtain ⟨a, ha, hr⟩ := h v rfl
    rw [Option.bind_some, ha]
    exact .some hr

/-- A field is as it was declared. It has the declared name and the type that the declared type
reads as. Each flag is what was said of it, or false. There is a default exactly if one was said,
and it is the literal that was said, of the same kind and equal to it. There is a size exactly if
one was said of a string: the integer that was said, from one on. There is a reference exactly if
one was said: the table and the column of the text that was said. -/
structure Field.AsDeclared (x : FieldDecl) (f : Field) : Prop where
  name : f.name = x.name
  type : TypeName.Reads x.type f.type f.nullable
  primaryKey : (said x.modifiers "primary_key").getD (.bool false) = .bool f.isPrimaryKey
  auto : (said x.modifiers "auto").getD (.bool false) = .bool f.isAuto
  unique : (said x.modifiers "unique").getD (.bool false) = .bool f.isUnique
  hasDefault : f.hasDefault = f.default.isSome
  default : Option.Rel (fun l v => l.Is v ∧ l.toValue.sameKey v = true)
    f.default (said x.modifiers "default")
  size : Option.Rel (fun n v => v.asInt? = some n ∧ 1 ≤ n)
    f.size (if f.type = .string then said x.modifiers "size" else none)
  reference : Option.Rel Reference.Is f.reference (said x.modifiers "foreign_key")

namespace Field

variable {x : FieldDecl} {f : Field}

theorem flag_of_extract {k : ModifierKey} (h : extract x = .ok f)
    (hk : k.name ∈ Modifier.flagNames) :
    (said x.modifiers k.name).getD (.bool false) = .bool (f.flag k) := by
  obtain ⟨t, nullable, ms, -, hms, rfl⟩ := extract_eq_ok_iff.mp h
  have hplain : (plain x.name t nullable).flag k = false := by cases k <;> rfl
  rw [Modifier.flag_foldl hk hms, hplain]
  cases hs : said x.modifiers k.name with
  | none => rfl
  | some v =>
    -- an entry that is taken under the name of a flag is a boolean, so its truth is itself
    have hvalid := Modifier.ofEntries_eq_ok.mp ⟨ms, hms⟩ _ (Modifier.mem_of_said hs)
    obtain ⟨b, rfl⟩ := hvalid.exists_bool hk
    rfl

theorem size_of_extract (h : extract x = .ok f) :
    f.size =
      (if f.type = .string then said x.modifiers "size" else none).bind Value.asInt? := by
  obtain ⟨t, nullable, ms, -, hms, rfl⟩ := extract_eq_ok_iff.mp h
  have htype : (ms.foldl Modifier.apply (plain x.name t nullable)).type = t :=
    (Modifier.foldl_apply_plain ms (plain x.name t nullable)).2.1
  rw [htype]
  by_cases ht : t = .string
  · subst ht
    rw [Modifier.size_foldl_string hms, if_pos rfl]
    cases said x.modifiers "size" <;> rfl
  · rw [Modifier.size_foldl_of_ne ht hms, if_neg ht]
    rfl

theorem reference_of_extract (h : extract x = .ok f) :
    f.reference =
      (said x.modifiers "foreign_key").bind fun v => v.asText?.bind Reference.ofText? := by
  obtain ⟨t, nullable, ms, -, hms, rfl⟩ := extract_eq_ok_iff.mp h
  rw [Modifier.reference_foldl hms]
  cases said x.modifiers "foreign_key" <;> rfl

theorem default_of_extract (h : extract x = .ok f) :
    f.hasDefault = (said x.modifiers "default").isSome ∧
      f.default = (said x.modifiers "default").bind Literal.ofValue? := by
  have hdefault := (extract_eq_ok h).default
  cases hs : said x.modifiers "default" <;> rw [hs] at hdefault <;> exact Prod.mk.inj hdefault

theorem asDeclared_of_extract (h : extract x = .ok f) : f.AsDeclared x := by
  have hx := extract_eq_ok h
  -- What is said under a name was taken, so it is valid under that name. That is why a part is
  -- present wherever something is said of it, and not only right where it is present.
  have hvalid {name : String} {v : Value} (hs : said x.modifiers name = some v) :
      Modifier.Valid name v := hx.modifiers _ (Modifier.mem_of_said hs)
  have hdefault : Option.Rel (fun l v => l.Is v ∧ l.toValue.sameKey v = true)
      f.default (said x.modifiers "default") := by
    rw [(default_of_extract h).2]
    refine rel_bind fun v hs => ?_
    obtain ⟨l, hl⟩ := Option.isSome_iff_exists.mp ((hvalid hs).isSome_literal rfl)
    have his := Literal.ofValue?_eq_some.mp hl
    exact ⟨l, hl, his, his.sameKey⟩
  have hsize : Option.Rel (fun n v => v.asInt? = some n ∧ 1 ≤ n)
      f.size (if f.type = .string then said x.modifiers "size" else none) := by
    rw [size_of_extract h]
    refine rel_bind fun v hs => ?_
    obtain ⟨n, hn, hpos⟩ := (hvalid (Option.ite_none_right_eq_some.mp hs).2).exists_size rfl
    exact ⟨n, hn, hn, hpos⟩
  have hreference : Option.Rel Reference.Is f.reference (said x.modifiers "foreign_key") := by
    rw [reference_of_extract h]
    refine rel_bind fun v hs => ?_
    obtain ⟨r, hr⟩ := (hvalid hs).exists_reference rfl
    exact ⟨r, hr, Reference.is_of_text hr⟩
  exact {
    name := hx.name
    type := hx.type
    primaryKey := flag_of_extract (k := .primaryKey) h (by decide)
    auto := flag_of_extract (k := .auto) h (by decide)
    unique := flag_of_extract (k := .unique) h (by decide)
    hasDefault := by
      rw [(default_of_extract h).1]
      generalize f.default = d, said x.modifiers "default" = v at hdefault
      cases hdefault <;> rfl
    default := hdefault
    size := hsize
    reference := hreference }

end Field

/-! ## Writing a field down -/

namespace Field

variable {f : Field}

/-- A field that defaults to the present without being temporal. -/
def IsMistimed (f : Field) : Prop := f.isNowDefault = true ∧ f.type.isTemporal = false

/-- The refusal of such a field. -/
def nowRefusal (f : Field) : Fault :=
  .declaration ⟨.nowNotTemporal f.type, none, some (.str f.name)⟩

/-- The default of a field, if it has one, and its column can be written down: the column in every
role, with every source of a key and every length of strings. Only a field that is mistimed is
refused, and it always is. -/
structure Writable (f : Field) : Prop where
  default : f.hasDefault = true → ¬ f.IsMistimed → ∃ d, f.columnDefault = .ok d
  clause : ¬ f.IsMistimed →
    ∀ role source size, ∃ text, f.clause role source size = .ok text
  refused : f.IsMistimed → f.columnDefault = .error f.nowRefusal ∧
    ∀ role source size, f.clause role source size = .error f.nowRefusal

theorem isMistimed_iff :
    f.IsMistimed ↔ f.hasDefault = true ∧ f.default = some (.str "now") ∧
      f.type ≠ .date ∧ f.type ≠ .dateTime := by
  have htype : f.type.isTemporal = false ↔ f.type ≠ .date ∧ f.type ≠ .dateTime := by
    cases f.type <;> simp [FieldType.isTemporal]
  rw [IsMistimed, isNowDefault, Bool.and_eq_true, beq_iff_eq, htype, and_assoc]
  rfl

/-- A field that has a default exactly if there is one can be written down. The condition is
needed: a field may also be built with a default that is missing, and then there is no text for
it. -/
theorem writable_of_default (h : f.hasDefault = f.default.isSome) : f.Writable := by
  cases hl : f.default with
  | none =>
    rw [hl] at h
    have hhas : f.hasDefault = false := h
    have hno : ¬ f.IsMistimed := fun hnow => by simp [isMistimed_iff, hl] at hnow
    refine ⟨fun hdefault => ?_, fun _ role source size => ?_, fun hnow => absurd hnow hno⟩
    · rw [hhas] at hdefault
      cases hdefault
    · -- nothing is said to be a default, so the column is written without one
      rw [clause_eq, hhas]
      exact ⟨_, rfl⟩
  | some l =>
    rw [hl] at h
    have hhas : f.hasDefault = true := h
    -- a literal has a text of its own, unless it is the keyword for the present
    rcases columnDefault_outcome hl with ⟨d, hd, htemporal⟩ | ⟨hd, rfl, hdate, hmoment⟩
    · have hno : ¬ f.IsMistimed := fun hnow => by
        obtain ⟨-, hnow, hdate, hmoment⟩ := isMistimed_iff.mp hnow
        obtain rfl : l = .str "now" := Option.some.inj (hl.symm.trans hnow)
        exact (htemporal rfl).elim hdate hmoment
      refine ⟨fun _ _ => ⟨d, hd⟩, fun _ role source size => ?_, fun hnow => absurd hnow hno⟩
      rw [clause_eq, hhas, hd]
      exact ⟨_, rfl⟩
    · have hyes : f.IsMistimed := isMistimed_iff.mpr ⟨hhas, hl, hdate, hmoment⟩
      refine ⟨fun _ hno => absurd hyes hno, fun hno => absurd hyes hno, fun _ => ⟨hd, ?_⟩⟩
      intro role source size
      rw [clause_eq, hhas, hd]
      rfl

/-- **Extracted fields.** Whatever field a declared field stands for is as it was declared, and its
default and its column can be written down, unless it defaults to the present and is not temporal:
that, and nothing else, is refused. -/
theorem extracted_wellFormed (x : FieldDecl) (f : Field) (h : extract x = .ok f) :
    f.AsDeclared x ∧ f.Writable := by
  have hdeclared := asDeclared_of_extract h
  exact ⟨hdeclared, writable_of_default hdeclared.hasDefault⟩

/-- A string whose size and default are members of enumerations. -/
def codeDecl : FieldDecl where
  name := "code"
  type := .str "Option<String>"
  modifiers := [("default", .member "Code" .text (.str "it's")), ("unique", .bool true),
    ("foreign_key", .str "countries.code"), ("size", .member "Width" .integer (.int 40))]

/-- What the string is extracted to. -/
def codeField : Field :=
  { plain "code" .string true with
    isUnique := true, hasDefault := true, default := some (.str "it's"), size := some 40
    reference := some ⟨"countries", "code"⟩ }

theorem extracted_wellFormed_code :
    extract codeDecl = .ok codeField ∧ (codeField.AsDeclared codeDecl ∧ codeField.Writable) ∧
      codeField.clause .column none 255 =
        .ok "code varchar(40) unique default 'it''s' references countries(code)" :=
  ⟨by rfl, extracted_wellFormed codeDecl codeField (by rfl), by rfl⟩

end Field

/-! ## Building a field anew -/

/-- The parts that a declared field gives for a field of a type: the values that were said, as they
were said, except that the text of a foreign key is taken apart before. -/
def FieldDecl.parts (x : FieldDecl) (type : FieldType) (nullable : Bool)
    (reference : Option Reference) : FieldParts where
  name := .str x.name
  type := .semantic type
  nullable := some (.bool nullable)
  isPrimaryKey := said x.modifiers "primary_key"
  isAuto := said x.modifiers "auto"
  isUnique := said x.modifiers "unique"
  hasDefault := (said x.modifiers "default").map fun _ => .bool true
  default := said x.modifiers "default"
  size := if type = .string then said x.modifiers "size" else none
  reference := reference

namespace FieldParts

theorem flag_eq_ok {part : String} {v : Option Value} {b : Bool}
    (h : v.getD (.bool false) = .bool b) : flag part v = .ok b := by
  rw [flag, h]
  rfl

theorem checkDefault_eq_ok {part : String} {l : Option Literal} {v : Option Value}
    (h : Option.Rel (fun l v => l.Is v ∧ l.toValue.sameKey v = true) l v) :
    (v.getD .null).checkDefault part = .ok l := by
  cases h with
  | none => rfl
  | @some l v h =>
    have hl := Literal.ofValue?_eq_some.mpr h.1
    cases v with
    | null => cases hl
    | _ => simp only [Option.getD_some, Value.checkDefault, hl]

theorem checkSize_eq_ok {part : String} {n : Option Int} {v : Option Value}
    (h : Option.Rel (fun n v => v.asInt? = some n ∧ 1 ≤ n) n v) :
    (v.getD .null).checkSize part = .ok n := by
  cases h with
  | none => rfl
  | @some n v h =>
    have hspelled : v.spelledInt = .ok n :=
      Value.asInt?_cases (P := fun v n => v.spelledInt = .ok n) (fun _ => rfl) (fun _ _ => rfl) h.1
    cases v with
    | null => cases h.1
    | _ => simp only [Option.getD_some, Value.checkSize, hspelled, if_neg (Int.not_lt.mpr h.2)]

end FieldParts

theorem Value.checkFieldType_semantic (part : String) (t : FieldType) :
    (Value.semantic t).checkFieldType part = .ok t := by
  have hname : (Value.semantic t).spelledText = .ok t.name := rfl
  rw [checkFieldType, hname]
  simp [Except.toOption, FieldType.ofName?_name]

/-- A field that is built anew from the values that were said of it passes every check, and each
check leaves what extraction has made of the value. A declared field always has a name. -/
theorem Field.build_parts {x : FieldDecl} {f : Field} (hname : x.name ≠ "")
    (h : extract x = .ok f) : (x.parts f.type f.nullable f.reference).build = .ok f := by
  have hx := asDeclared_of_extract h
  have hchecked : (Value.str x.name).checkName [.name "name"] = .ok f.name := by
    rw [Value.checkName_str, if_neg hname, hx.name]
  have hhas : ((((said x.modifiers "default").map fun _ => Value.bool true).getD
      (.bool (said x.modifiers "default").isSome)).checkBool "has_default") =
      .ok f.hasDefault := by
    rw [(default_of_extract h).1]
    cases said x.modifiers "default" <;> rfl
  simp only [FieldParts.build, FieldDecl.parts, hchecked, Value.checkFieldType_semantic,
    FieldParts.flag_eq_ok hx.primaryKey, FieldParts.flag_eq_ok hx.auto,
    FieldParts.flag_eq_ok hx.unique, hhas, FieldParts.checkDefault_eq_ok hx.default,
    FieldParts.checkSize_eq_ok hx.size, FieldParts.flag_eq_ok Option.getD_some]
  rfl

end Relvar
