/-
Which modifiers a field may have, and what they make of it. Each modifier is
judged by its name and its value alone, so that the first one that is not valid
refuses the field; the ones that are valid say each a thing of its own, and none
touches what another one says.
-/
import Relvar.Field.Extract
import Relvar.Proofs.Outcome

set_option autoImplicit false

namespace Relvar

/-! ## Foreign keys -/

namespace Reference

theorem pieces_ne_nil (s : List Char) : pieces s ≠ [] := by
  cases s with
  | nil => simp [pieces]
  | cons c s =>
    rw [pieces]
    split
    · simp
    · split <;> simp

/-- The pieces of a text without a point are the text. -/
theorem pieces_eq_singleton {s p : List Char} : pieces s = [p] ↔ p = s ∧ '.' ∉ s := by
  -- the first piece grows from the front, so it is left general
  induction s generalizing p with
  | nil => simp [pieces, eq_comm]
  | cons c s ih =>
    rw [pieces]
    by_cases hc : c = '.'
    · simp [hc, pieces_ne_nil]
    · cases hs : pieces s with
      | nil => exact absurd hs (pieces_ne_nil s)
      | cons q qs =>
        have hiff : q :: qs = [q] ↔ q = s ∧ '.' ∉ s := hs ▸ ih
        have hc' : '.' ≠ c := fun h => hc h.symm
        simp only [hc, if_false, List.cons.injEq, List.mem_cons, hc', false_or] at hiff ⊢
        constructor
        · rintro ⟨rfl, rfl⟩
          obtain ⟨rfl, hpoint⟩ := hiff.mp ⟨trivial, rfl⟩
          exact ⟨rfl, hpoint⟩
        · rintro ⟨rfl, hpoint⟩
          have hsingle := ih.mpr ⟨rfl, hpoint⟩
          rw [hs, List.cons.injEq] at hsingle
          exact ⟨by rw [hsingle.1], hsingle.2⟩

/-- A text has two pieces if there is one point in it: what stands in front of the
point and what stands behind it. -/
theorem pieces_eq_pair {s p q : List Char} :
    pieces s = [p, q] ↔ s = p ++ '.' :: q ∧ '.' ∉ p ∧ '.' ∉ q := by
  induction s generalizing p with
  | nil => simp [pieces]
  | cons c s ih =>
    rw [pieces]
    by_cases hc : c = '.'
    -- the point is the first character: the first piece is empty and all that follows is the
    -- second
    · subst hc
      simp only [if_true, List.cons.injEq, pieces_eq_singleton]
      constructor
      · rintro ⟨rfl, rfl, hq⟩
        exact ⟨rfl, by simp, hq⟩
      · rintro ⟨hs, hp, hq⟩
        cases p with
        | nil =>
          obtain rfl : s = q := by simpa using hs
          exact ⟨rfl, rfl, hq⟩
        | cons x p => simp_all
    -- another character is put in front of the first piece of what follows
    · cases hs : pieces s with
      | nil => exact absurd hs (pieces_ne_nil s)
      | cons r rs =>
        simp only [hc, if_false, List.cons.injEq]
        constructor
        · rintro ⟨rfl, rfl⟩
          obtain ⟨rfl, hp, hq⟩ := ih.mp hs
          exact ⟨rfl, by simp [hp, Ne.symm hc], hq⟩
        · rintro ⟨hcons, hp, hq⟩
          cases p with
          | nil => simp [hc] at hcons
          | cons x p =>
            obtain ⟨rfl, hs'⟩ := List.cons.inj hcons
            have hpair := ih.mpr ⟨hs', fun h => hp (List.mem_cons_of_mem _ h), hq⟩
            rw [hs, List.cons.injEq] at hpair
            exact ⟨by rw [hpair.1], hpair.2⟩

/-- A text stands for a reference if it is a table and a column, neither of them
empty, with the only point between them. -/
theorem ofText?_eq_some {s : String} {r : Reference} :
    ofText? s = some r ↔
      s = r.table ++ "." ++ r.column ∧ r.table ≠ "" ∧ r.column ≠ "" ∧
        '.' ∉ r.table.toList ∧ '.' ∉ r.column.toList := by
  have hpair : s = r.table ++ "." ++ r.column ∧ '.' ∉ r.table.toList ∧ '.' ∉ r.column.toList ↔
      pieces s.toList = [r.table.toList, r.column.toList] := by
    rw [pieces_eq_pair, ← String.toList_inj]
    simp
  -- the pieces alone do not say that they are not empty, which is checked behind them
  have hiff : ofText? s = some r ↔ pieces s.toList = [r.table.toList, r.column.toList] ∧
      r.table ≠ "" ∧ r.column ≠ "" := by
    unfold ofText?
    split
    · next t c ht =>
      rw [ht]
      by_cases hne : (t.isEmpty || c.isEmpty) = true
      · simp only [hne, if_true, reduceCtorEq, List.cons.injEq, and_true, false_iff]
        rintro ⟨⟨rfl, rfl⟩, htable, hcolumn⟩
        simp_all
      · simp only [hne, Bool.false_eq_true, if_false, Option.some.injEq, List.cons.injEq, and_true]
        constructor
        · rintro rfl
          simpa [and_comm] using hne
        · rintro ⟨⟨rfl, rfl⟩, -, -⟩
          simp
    · next hno =>
      simp only [reduceCtorEq, false_iff]
      rintro ⟨h, -, -⟩
      exact hno _ _ h
  rw [hiff, ← hpair]
  tauto

/-- A value stands for a reference if it is text that does. -/
theorem parse_eq_ok {v : Value} {r : Reference} :
    parse v = .ok r ↔ v.asText?.bind ofText? = some r := by
  unfold parse
  cases v.asText? with
  | none => simp
  | some s => cases h : ofText? s <;> simp [h]

end Reference

/-! ## Literals -/

namespace Literal

/-- A literal is a boolean, a text or an integer. -/
theorem isSome_ofValue {v : Value} :
    (ofValue? v).isSome = true ↔
      (∃ b, v = .bool b) ∨ v.asText?.isSome = true ∨ v.asInt?.isSome = true := by
  unfold ofValue?
  cases v with
  | bool b => simp
  | _ => simp only [reduceCtorEq, exists_false, false_or]; split <;> simp_all

theorem ofValue?_eq_str {v : Value} {l : Literal} {s : String} (h : ofValue? v = some l) :
    l = .str s ↔ v.asText? = some s := by
  unfold ofValue? at h
  cases v with
  | bool b =>
    obtain rfl := Option.some.inj h
    simp [Value.asText?]
  | _ =>
    simp only at h
    split at h
    · next t ht =>
      obtain rfl := Option.some.inj h
      simp [ht]
    · next ht _ =>
      obtain rfl := Option.some.inj h
      simp [ht]
    · cases h

end Literal

/-! ## Valid modifiers -/

namespace Modifier

/-- The names of the modifiers that are flags. -/
def flagNames : List String := ["primary_key", "auto", "unique"]

/-- The modifiers that a field may have, by their names and values. -/
inductive Valid : String → Value → Prop
  | flag {name : String} {b : Bool} (known : name ∈ flagNames) : Valid name (.bool b)
  | size {v : Value} {n : Int} (integer : v.asInt? = some n) (positive : 1 ≤ n) : Valid "size" v
  | default {v : Value}
      (literal : (∃ b, v = .bool b) ∨ v.asText?.isSome ∨ v.asInt?.isSome) : Valid "default" v
  | foreignKey {v : Value} {table column : String}
      (text : v.asText? = some (table ++ "." ++ column))
      (table_ne : table ≠ "") (column_ne : column ≠ "")
      (table_point : '.' ∉ table.toList) (column_point : '.' ∉ column.toList) :
      Valid "foreign_key" v

/-- Why a modifier that is not valid is refused. -/
def refusal (name : String) (v : Value) : Cause :=
  if name ∈ flagNames then .notBool (.str name) v
  else if name = "size" then .notSize v
  else if name = "default" then .notDefault v
  else if name = "foreign_key" then
    if v.asText?.isSome then .malformedForeignKey v else .foreignKeyNotText v
  else .unknownModifier (.str name)

/-- Only a foreign key that is text is refused as a foreign key. -/
theorem code_refusal (name : String) (v : Value) :
    (refusal name v).code =
      if name = "foreign_key" ∧ v.asText?.isSome then .invalidForeignKey else .invalidModifier := by
  unfold refusal
  by_cases hforeign : name = "foreign_key"
  · subst hforeign
    cases v.asText? <;> simp [flagNames, Cause.code]
  · simp only [hforeign, false_and, if_false]
    split
    · rfl
    · split
      · rfl
      · split <;> rfl

theorem Valid.exists_bool {name : String} {v : Value} (h : Valid name v)
    (hname : name ∈ flagNames) : ∃ b, v = .bool b := by
  cases h with
  | @flag _ b => exact ⟨b, rfl⟩
  | size | default | foreignKey => exact absurd hname (by decide)

theorem ofName?_name (k : ModifierKey) : ModifierKey.ofName? k.name = some k := by
  cases k <;> decide

theorem name_of_ofName? {s : String} {k : ModifierKey} (h : ModifierKey.ofName? s = some k) :
    s = k.name := by
  have hname := List.find?_some h
  exact (eq_of_beq hname).symm

/-- A flag that is not a boolean is refused as such. -/
theorem flag_of_not_valid {name : String} {v : Value} {make : Bool → Modifier}
    (hname : name ∈ flagNames) (h : ¬ Valid name v) :
    flag (.str name) make v = .error (refusal name v) := by
  have hbool : ∀ b, v ≠ .bool b := by
    rintro b rfl
    exact h (.flag hname)
  rw [refusal, if_pos hname]
  unfold flag
  split
  · exact absurd rfl (hbool _)
  · rfl

theorem Valid.isSome_literal {name : String} {v : Value} (h : Valid name v)
    (hname : name = "default") : (Literal.ofValue? v).isSome = true := by
  cases h with
  | flag known => exact absurd (hname ▸ known) (by decide)
  | default literal => exact Literal.isSome_ofValue.mpr literal
  | size | foreignKey => exact absurd hname (by decide)

theorem Valid.exists_size {name : String} {v : Value} (h : Valid name v) (hname : name = "size") :
    ∃ n, v.asInt? = some n ∧ 1 ≤ n := by
  cases h with
  | flag known => exact absurd (hname ▸ known) (by decide)
  | size integer positive => exact ⟨_, integer, positive⟩
  | default | foreignKey => exact absurd hname (by decide)

theorem Valid.exists_reference {name : String} {v : Value} (h : Valid name v)
    (hname : name = "foreign_key") : ∃ r, v.asText?.bind Reference.ofText? = some r := by
  cases h with
  | flag known => exact absurd (hname ▸ known) (by decide)
  | size | default => exact absurd hname (by decide)
  | @foreignKey _ table column text table_ne column_ne table_point column_point =>
    refine ⟨⟨table, column⟩, ?_⟩
    rw [text]
    exact Reference.ofText?_eq_some.mpr ⟨rfl, table_ne, column_ne, table_point, column_point⟩

/-- An entry under the name of a modifier says what its value makes of it. -/
theorem ofEntry_name (k : ModifierKey) (v : Value) :
    Modifier.ofEntry (.str k.name) v = parse k (.str k.name) v := by
  simp [Modifier.ofEntry, Value.asText?, ofName?_name]

/-- A modifier that is valid is taken. -/
theorem Valid.ofEntry {name : String} {v : Value} (h : Valid name v) :
    ∃ m, Modifier.ofEntry (.str name) v = .ok m := by
  cases h with
  -- each of the three names is a branch of its own in the table of keys
  | flag known =>
    simp only [flagNames, List.mem_cons, List.not_mem_nil, or_false] at known
    rcases known with rfl | rfl | rfl <;> exact ⟨_, rfl⟩
  | @size _ n integer positive =>
    refine ⟨.size n v, (ofEntry_name .size v).trans ?_⟩
    simp [parse, integer, Int.not_lt.mpr positive]
  | default literal =>
    obtain ⟨l, hl⟩ := Option.isSome_iff_exists.mp (Literal.isSome_ofValue.mpr literal)
    refine ⟨.default l v, (ofEntry_name .default v).trans ?_⟩
    simp [parse, hl]
  | @foreignKey _ table column text table_ne column_ne table_point column_point =>
    have href : Reference.ofText? (table ++ "." ++ column) = some ⟨table, column⟩ :=
      Reference.ofText?_eq_some.mpr ⟨rfl, table_ne, column_ne, table_point, column_point⟩
    refine ⟨.foreignKey ⟨table, column⟩, (ofEntry_name .foreignKey v).trans ?_⟩
    simp [parse, Reference.parse, text, href, Except.map]

/-- A modifier under no name of one is refused for its name. -/
theorem ofEntry_of_unknown {name : String} (hk : ModifierKey.ofName? name = none) (v : Value) :
    Modifier.ofEntry (.str name) v = .error (refusal name v) := by
  have hne : ∀ k : ModifierKey, ¬ name = k.name := by
    rintro k rfl
    simp [ofName?_name] at hk
  have hsize : ¬ name = "size" := hne .size
  have hdefault : ¬ name = "default" := hne .default
  have hforeign : ¬ name = "foreign_key" := hne .foreignKey
  have hflag : name ∉ flagNames := by
    simpa [flagNames] using ⟨hne .primaryKey, hne .auto, hne .unique⟩
  simp [Modifier.ofEntry, Value.asText?, hk, refusal, hflag, hsize, hdefault, hforeign]

/-- A size that is no positive integer is refused as such. -/
theorem size_of_not_valid {v : Value} (h : ¬ Valid "size" v) :
    parse .size (.str "size") v = .error (refusal "size" v) := by
  have hlt : ∀ n, v.asInt? = some n → n < 1 := fun n hn =>
    Int.not_le.mp fun hle => h (.size hn hle)
  cases hn : v.asInt? with
  | none => simp [parse, hn, refusal, flagNames]
  | some n => simp [parse, hn, hlt n hn, refusal, flagNames]

/-- A default that is no literal is refused as such. -/
theorem default_of_not_valid {v : Value} (h : ¬ Valid "default" v) :
    parse .default (.str "default") v = .error (refusal "default" v) := by
  have hl : Literal.ofValue? v = none := by
    rw [← Option.not_isSome_iff_eq_none, Literal.isSome_ofValue]
    exact fun hl => h (.default hl)
  simp [parse, hl, refusal, flagNames]

/-- A foreign key is refused as no text, or as text that is no reference. -/
theorem foreignKey_of_not_valid {v : Value} (h : ¬ Valid "foreign_key" v) :
    parse .foreignKey (.str "foreign_key") v = .error (refusal "foreign_key" v) := by
  cases ht : v.asText? with
  | none => simp [parse, Reference.parse, ht, refusal, flagNames, Except.map]
  | some s =>
    have hr : Reference.ofText? s = none := by
      rw [Option.eq_none_iff_forall_ne_some]
      intro r hr
      obtain ⟨rfl, h₁, h₂, h₃, h₄⟩ := Reference.ofText?_eq_some.mp hr
      exact h (.foreignKey ht h₁ h₂ h₃ h₄)
    simp [parse, Reference.parse, ht, hr, refusal, flagNames, Except.map]

/-- A modifier that is not valid is refused for what is wrong with it. -/
theorem ofEntry_of_not_valid {name : String} {v : Value} (h : ¬ Valid name v) :
    Modifier.ofEntry (.str name) v = .error (refusal name v) := by
  cases hk : ModifierKey.ofName? name with
  | none => exact ofEntry_of_unknown hk v
  | some k =>
    obtain rfl := name_of_ofName? hk
    rw [ofEntry_name]
    cases k with
    | primaryKey | auto | unique => exact flag_of_not_valid (by decide) h
    | size => exact size_of_not_valid h
    | default => exact default_of_not_valid h
    | foreignKey => exact foreignKey_of_not_valid h

/-! ## Entries -/

/-- The key that a modifier stands under. -/
def key : Modifier → ModifierKey
  | primaryKey _ => .primaryKey
  | auto _ => .auto
  | unique _ => .unique
  | size _ _ => .size
  | default _ _ => .default
  | foreignKey _ => .foreignKey

theorem key_of_parse {k : ModifierKey} {spelled v : Value} {m : Modifier}
    (h : parse k spelled v = .ok m) : m.key = k := by
  cases k with
  | primaryKey | auto | unique =>
    simp only [parse, flag] at h
    split at h <;> cases h
    rfl
  | size =>
    simp only [parse] at h
    split at h
    · split at h <;> cases h
      rfl
    · cases h
  | default =>
    simp only [parse] at h
    split at h <;> cases h
    rfl
  | foreignKey =>
    obtain ⟨r, -, rfl⟩ := Except.map_eq_ok.mp h
    rfl

/-- An entry that is taken stands under the name of a key, and is what its value
makes of that key. -/
theorem ofEntry_eq_ok {name : String} {v : Value} {m : Modifier}
    (h : Modifier.ofEntry (.str name) v = .ok m) :
    name = m.key.name ∧ parse m.key (.str name) v = .ok m := by
  cases hk : ModifierKey.ofName? name with
  | none => simp [Modifier.ofEntry, Value.asText?, hk] at h
  | some k =>
    simp only [Modifier.ofEntry, Value.asText?, Option.bind_some, hk] at h
    obtain rfl := key_of_parse h
    exact ⟨name_of_ofName? hk, h⟩

/-- Entries are read one after the other, and the modifiers that say nothing of the type are
left out of what is read. -/
theorem ofEntries_eq_mapM (type : FieldType) (es : List (Value × Value)) :
    ofEntries type es =
      (es.mapM fun e => ofEntry e.1 e.2).map (List.filter (·.appliesTo type)) := by
  induction es with
  | nil => rfl
  | cons e es ih =>
    rw [ofEntries, ih, List.mapM_cons]
    cases ofEntry e.1 e.2 with
    | error c => rfl
    | ok m =>
      cases es.mapM fun e => ofEntry e.1 e.2 with
      | error c => rfl
      | ok ms =>
        refine congrArg Except.ok ?_
        rw [List.filter_cons]

/-- What is made of entries that are taken. -/
theorem ofEntries_eq_ok_iff {type : FieldType} {es : List (Value × Value)} {ms : List Modifier} :
    ofEntries type es = .ok ms ↔ ∃ all, List.Forall₂ (fun e m => ofEntry e.1 e.2 = .ok m) es all ∧
      all.filter (·.appliesTo type) = ms := by
  rw [ofEntries_eq_mapM, Except.map_eq_ok]
  simp only [Except.mapM_eq_ok]

/-- An entry is taken if it is valid. -/
theorem exists_ofEntry {name : String} {v : Value} :
    (∃ m, ofEntry (.str name) v = .ok m) ↔ Valid name v := by
  refine ⟨?_, Valid.ofEntry⟩
  rintro ⟨m, hm⟩
  by_contra hvalid
  rw [ofEntry_of_not_valid hvalid] at hm
  cases hm

/-- Entries are taken if each of them is valid. -/
theorem ofEntries_eq_ok {type : FieldType} {es : List (String × Value)} :
    (∃ ms, ofEntries type (Dict.ofStrings es) = .ok ms) ↔ ∀ e ∈ es, Valid e.1 e.2 := by
  have hall : (∃ ms, ofEntries type (Dict.ofStrings es) = .ok ms) ↔
      ∃ all, List.Forall₂ (fun e m => ofEntry (.str e.1) e.2 = .ok m) es all := by
    simp only [ofEntries_eq_ok_iff, Dict.ofStrings, List.forall₂_map_left_iff]
    exact ⟨fun ⟨_, all, h, _⟩ => ⟨all, h⟩, fun ⟨all, h⟩ => ⟨_, all, h, rfl⟩⟩
  rw [hall, exists_forall₂_iff]
  simp only [exists_ofEntry]

/-- Entries are refused for the first of them that is not valid. -/
theorem ofEntries_eq_error {type : FieldType} {es : List (String × Value)} {c : Cause}
    (h : ofEntries type (Dict.ofStrings es) = .error c) :
    ∃ pre name v post, es = pre ++ (name, v) :: post ∧ (∀ e ∈ pre, Valid e.1 e.2) ∧
      ¬ Valid name v ∧ c = refusal name v := by
  rw [ofEntries_eq_mapM, Except.map_eq_error, Dict.ofStrings, List.mapM_map] at h
  obtain ⟨pre, ⟨name, v⟩, post, hsplit, hpre, hx⟩ := Except.mapM_eq_error.mp h
  have hvalid : ¬ Valid name v := by
    rw [← exists_ofEntry]
    rintro ⟨m, hm⟩
    cases hm.symm.trans hx
  refine ⟨pre, name, v, post, hsplit, fun e he => exists_ofEntry.mp (hpre e he), hvalid, ?_⟩
  exact Except.error.inj (hx.symm.trans (ofEntry_of_not_valid hvalid))

end Modifier

/-! ## What entries make of a field -/

/-- What a field says under the key of a flag. -/
def Field.flag (f : Field) : ModifierKey → Bool
  | .primaryKey => f.isPrimaryKey
  | .auto => f.isAuto
  | .unique => f.isUnique
  | .size | .default | .foreignKey => false

namespace Modifier

/-- What entries say under a name. Of several entries under one name the last
counts; a mapping has one at most. -/
def said (es : List (String × Value)) (name : String) : Option Value :=
  match es with
  | [] => none
  | e :: es => (said es name).or (if e.1 = name then some e.2 else none)

theorem mem_of_said {es : List (String × Value)} {name : String} {v : Value}
    (h : said es name = some v) : (name, v) ∈ es := by
  induction es with
  | nil => cases h
  | cons e es ih =>
    rw [said, Option.or_eq_some_iff] at h
    rcases h with h | ⟨-, h⟩
    · exact List.mem_cons_of_mem _ (ih h)
    · obtain ⟨rfl, rfl⟩ : e.1 = name ∧ e.2 = v := by simpa using h
      exact List.mem_cons_self

/-- What entries make of one part of a field, if a single modifier writes that
part: what the entry under its name says, or what was there before. -/
theorem foldl_apply_part {α : Type} {type : FieldType} (part : Field → α) (k : ModifierKey)
    {read : Value → α}
    (own : ∀ f v m, parse k (.str k.name) v = .ok m →
      m.appliesTo type = true ∧ part (m.apply f) = read v)
    (other : ∀ f (m : Modifier), m.key ≠ k → part (m.apply f) = part f)
    {es : List (String × Value)} {ms : List Modifier} {f : Field}
    (h : ofEntries type (Dict.ofStrings es) = .ok ms) :
    part (ms.foldl Modifier.apply f) = ((said es k.name).map read).getD (part f) := by
  obtain ⟨all, hall, rfl⟩ := ofEntries_eq_ok_iff.mp h
  rw [Dict.ofStrings, List.forall₂_map_left_iff] at hall
  clear h
  induction hall generalizing f with
  | nil => rfl
  | @cons e m es all hm _ ih =>
    obtain ⟨hname, hparse⟩ := ofEntry_eq_ok hm
    by_cases hk : m.key = k
    · subst hk
      rw [hname] at hparse
      obtain ⟨happlies, hpart⟩ := own f e.2 m hparse
      rw [List.filter_cons_of_pos happlies, List.foldl_cons, ih, hpart]
      cases hs : said es m.key.name <;> simp [said, hs, hname]
    · -- the modifier writes another part, or it is left out; the part is the same either way
      have hother : e.1 ≠ k.name := fun heq =>
        hk (Option.some.inj (by rw [← ofName?_name, ← hname, heq, ofName?_name]))
      have hstep : part (((m :: all).filter (·.appliesTo type)).foldl Modifier.apply f) =
          ((said es k.name).map read).getD (part f) := by
        rw [List.filter_cons]
        split
        · rw [List.foldl_cons, ih, other f m hk]
        · exact ih
      rw [hstep]
      simp [said, hother]

/-- No modifier touches the name, the type or whether the field may be null. -/
theorem foldl_apply_plain (ms : List Modifier) (f : Field) :
    (ms.foldl Modifier.apply f).name = f.name ∧ (ms.foldl Modifier.apply f).type = f.type ∧
      (ms.foldl Modifier.apply f).nullable = f.nullable := by
  induction ms generalizing f with
  | nil => exact ⟨rfl, rfl, rfl⟩
  | cons m ms ih =>
    rw [List.foldl_cons]
    obtain ⟨hname, htype, hnull⟩ := ih (m.apply f)
    rw [hname, htype, hnull]
    cases m <;> exact ⟨rfl, rfl, rfl⟩

variable {type : FieldType} {es : List (String × Value)} {ms : List Modifier} {f : Field}

/-- A flag is what the entries say under its name. -/
theorem flag_foldl {k : ModifierKey} (hk : k.name ∈ flagNames)
    (h : ofEntries type (Dict.ofStrings es) = .ok ms) :
    (ms.foldl Modifier.apply f).flag k =
      ((said es k.name).map Value.isTruthy).getD (f.flag k) := by
  refine foldl_apply_part (·.flag k) k (fun f v m hm => ?_) (fun f m hm => ?_) h
  · cases k with
    | primaryKey | auto | unique =>
      simp only [parse, flag] at hm
      split at hm <;> cases hm
      exact ⟨rfl, rfl⟩
    | size | default | foreignKey => exact absurd hk (by decide)
  · cases m <;> cases k <;> first | rfl | exact absurd rfl hm

/-- A field is marked if its entries say so. -/
theorem isPrimaryKey_foldl (h : ofEntries type (Dict.ofStrings es) = .ok ms) :
    (ms.foldl Modifier.apply f).isPrimaryKey =
      ((said es "primary_key").map Value.isTruthy).getD f.isPrimaryKey :=
  flag_foldl (k := .primaryKey) List.mem_cons_self h

/-- A field has the default that its entries say. -/
theorem default_foldl (h : ofEntries type (Dict.ofStrings es) = .ok ms) :
    ((ms.foldl Modifier.apply f).hasDefault, (ms.foldl Modifier.apply f).default) =
      ((said es "default").map fun v => (true, Literal.ofValue? v)).getD
        (f.hasDefault, f.default) := by
  refine foldl_apply_part (fun f => (f.hasDefault, f.default)) .default
    (fun f v m hm => ?_) (fun f m hm => ?_) h
  · simp only [parse] at hm
    split at hm
    · next l hl =>
      cases hm
      exact ⟨rfl, by rw [hl]; rfl⟩
    · cases hm
  · cases m <;> first | rfl | exact absurd rfl hm

/-- A field refers to the column that its entries say. -/
theorem reference_foldl (h : ofEntries type (Dict.ofStrings es) = .ok ms) :
    (ms.foldl Modifier.apply f).reference =
      ((said es "foreign_key").map fun v => v.asText?.bind Reference.ofText?).getD
        f.reference := by
  refine foldl_apply_part Field.reference .foreignKey
    (fun f v m hm => ?_) (fun f m hm => ?_) h
  · obtain ⟨r, hr, rfl⟩ := Except.map_eq_ok.mp hm
    exact ⟨rfl, (Reference.parse_eq_ok.mp hr).symm⟩
  · cases m <;> first | rfl | exact absurd rfl hm

/-- A modifier that is kept says something of the type. -/
theorem appliesTo_of_mem (h : ofEntries type (Dict.ofStrings es) = .ok ms) {m : Modifier}
    (hm : m ∈ ms) : m.appliesTo type = true := by
  obtain ⟨all, -, rfl⟩ := ofEntries_eq_ok_iff.mp h
  exact (List.mem_filter.mp hm).2

/-- A string has the size that its entries say. -/
theorem size_foldl_string (h : ofEntries .string (Dict.ofStrings es) = .ok ms) :
    (ms.foldl Modifier.apply f).size = ((said es "size").map Value.asInt?).getD f.size := by
  refine foldl_apply_part Field.size .size (fun f v m hm => ?_) (fun f m hm => ?_) h
  · simp only [parse] at hm
    split at hm
    · next n hn =>
      split at hm <;> cases hm
      exact ⟨rfl, hn.symm⟩
    · cases hm
  · cases m <;> first | rfl | exact absurd rfl hm

/-- A size that is said of another field is not kept. -/
theorem size_foldl_of_ne (htype : type ≠ .string)
    (h : ofEntries type (Dict.ofStrings es) = .ok ms) :
    (ms.foldl Modifier.apply f).size = f.size := by
  have hstep : ∀ m ∈ ms, ∀ f : Field, (m.apply f).size = f.size := by
    intro m hm f
    have happlies := appliesTo_of_mem h hm
    cases m with
    | size n given => exact absurd (of_decide_eq_true happlies) htype
    | _ => rfl
  -- the entries speak of the whole list, so only what each modifier does goes into the induction
  clear h
  induction ms generalizing f with
  | nil => rfl
  | cons m ms ih =>
    rw [List.foldl_cons, ih fun m' hm' => hstep m' (List.mem_cons_of_mem m hm'),
      hstep m List.mem_cons_self]

end Modifier

/-- A declared field stands for what its modifiers make of a field of its name and type. -/
theorem Field.extract_eq_ok_iff {x : FieldDecl} {f : Field} :
    extract x = .ok f ↔ ∃ t nullable ms, FieldType.ofDeclared x.type = .ok (t, nullable) ∧
      Modifier.ofEntries t (Dict.ofStrings x.modifiers) = .ok ms ∧
      ms.foldl Modifier.apply (plain x.name t nullable) = f := by
  rw [extract, Cause.about, Except.mapError_eq_ok, ofParts]
  constructor
  · intro h
    obtain ⟨⟨t, nullable⟩, htype, h⟩ := Except.bind_eq_ok.mp h
    obtain ⟨ms, hms, h⟩ := Except.bind_eq_ok.mp h
    exact ⟨t, nullable, ms, htype, hms, Except.ok.inj h⟩
  · rintro ⟨t, nullable, ms, htype, hms, rfl⟩
    exact Except.bind_eq_ok.mpr ⟨_, htype, Except.bind_eq_ok.mpr ⟨ms, hms, rfl⟩⟩

end Relvar
