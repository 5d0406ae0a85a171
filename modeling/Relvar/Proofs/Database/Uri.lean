/-
Addresses of databases, read back. A reader of the grammar takes an address apart where its signs
stand: credentials up to the first at sign, if no slash comes before it, with a colon in front of
the password; a server, with a colon in front of the port; a database up to the question mark; and
parameters behind it. Then it replaces what is escaped by the octets that it stands for. An empty
part says nothing. An address of several servers, or of one in brackets, is not read.

Reading never makes a text longer. So an address that is read as the very texts that it was
written from is made of them alone: none of them holds a sign that ends its part, and none an
escape.
-/
import Relvar.Proofs.Source.Reader
import Mathlib.Data.List.Basic

set_option autoImplicit false

namespace Relvar.Uri

/-! ## Reader -/

/-- What an address starts with. -/
def scheme : List Char := "postgresql://".toList

/-- The octets of a text. -/
def octets (s : List Char) : List UInt8 := s.flatMap String.utf8EncodeChar

/-- The octet of two hexadecimal digits. Zero would end a text. -/
def octet? (high low : Char) : Option UInt8 := do
  let n := 16 * (← Source.Scanner.hexDigit? high) + (← Source.Scanner.hexDigit? low)
  if n = 0 then none else some (UInt8.ofNat n)

/-- The octets that a part stands for. A percent sign has two digits behind it. -/
def decode? : List Char → Option (List UInt8)
  | [] => some []
  | '%' :: high :: low :: s => do return (← octet? high low) :: (← decode? s)
  | c :: s => if c = '%' then none else do return String.utf8EncodeChar c ++ (← decode? s)

/-- What a part says, unless it is empty. -/
def part? (s : List Char) : Option (Option (List UInt8)) :=
  if s = [] then some none else (decode? s).map some

/-- A text cut at the first of a character: what stands in front of it, and what stands behind it
if it is there. -/
def cut (c : Char) : List Char → List Char × Option (List Char)
  | [] => ([], none)
  | d :: s => if d = c then ([], some s) else (d :: (cut c s).1, (cut c s).2)

/-- The credentials in front of a server, and the rest. -/
def credentials (s : List Char) : List Char × List Char :=
  match cut '@' s with
  | (front, some rest) => if '/' ∈ front then ([], s) else (front, rest)
  | (_, none) => ([], s)

/-- The name and the port of a server. -/
def server? (s : List Char) : Option (List Char × Option (List Char)) :=
  if ',' ∈ s ∨ s.head? = some '[' then none else some (cut ':' s)

/-- A parameter: a key and a value with one equality sign between. -/
def parameter? (s : List Char) : Option (List UInt8 × List UInt8) :=
  match cut '=' s with
  | (key, some value) => if '=' ∈ value then none else do return (← decode? key, ← decode? value)
  | (_, none) => none

/-- Parameters with ampersands between. -/
def parameters? (s : List Char) : Option (List (List UInt8 × List UInt8)) :=
  if s = [] then some [] else (s.splitOn '&').mapM parameter?

/-- What an address says, part by part and as octets. -/
structure Target where
  user : Option (List UInt8)
  password : Option (List UInt8)
  host : Option (List UInt8)
  port : Option (List UInt8)
  database : Option (List UInt8)
  parameters : List (List UInt8 × List UInt8)
  deriving DecidableEq

/-- The pieces of an address as they are written. A piece that is missing is empty. -/
structure Pieces where
  user : List Char
  password : List Char
  host : List Char
  port : List Char
  database : List Char
  query : List Char
  deriving DecidableEq

/-- An address taken apart behind its scheme. -/
def pieces? (s : List Char) : Option Pieces := do
  let (login, s) := credentials s
  let (user, password) := cut ':' login
  let (place, query) := cut '?' s
  let (server, database) := cut '/' place
  let (host, port) ← server? server
  return ⟨user, password.getD [], host, port.getD [], database.getD [], query.getD []⟩

/-- What pieces say. -/
def Pieces.target? (p : Pieces) : Option Target := do
  return {
    user := ← part? p.user
    password := ← part? p.password
    host := ← part? p.host
    port := ← part? p.port
    database := ← part? p.database
    parameters := ← parameters? p.query }

/-- What an address says. -/
def read? (s : List Char) : Option Target :=
  if scheme <+: s then (pieces? (s.drop scheme.length)).bind Pieces.target? else none

/-! ## Octets -/

theorem octets_inj {s t : List Char} (h : octets s = octets t) : s = t := by
  have hbytes : (String.ofList s).toByteArray = (String.ofList t).toByteArray := by
    rw [String.toByteArray_ofList, String.toByteArray_ofList, List.utf8Encode, List.utf8Encode]
    exact congrArg List.toByteArray h
  rw [← String.toList_ofList (l := s), String.toByteArray_inj.mp hbytes, String.toList_ofList]

@[simp] theorem octets_nil : octets [] = [] := rfl

@[simp] theorem octets_cons (c : Char) (s : List Char) :
    octets (c :: s) = String.utf8EncodeChar c ++ octets s := rfl

@[simp] theorem octets_append (s t : List Char) : octets (s ++ t) = octets s ++ octets t :=
  List.flatMap_append

theorem length_utf8EncodeChar_pos (c : Char) : 0 < (String.utf8EncodeChar c).length := by
  rw [String.length_utf8EncodeChar]
  exact c.utf8Size_pos

/-! ## Escapes -/

theorem decode?_cons {c : Char} {s : List Char} (h : c ≠ '%') :
    decode? (c :: s) = (decode? s).map (String.utf8EncodeChar c ++ ·) := by
  rw [decode?.eq_3 _ _ (by intro _ _ _ hc; exact absurd hc h), if_neg h]
  cases decode? s <;> rfl

/-- A part without an escape stands for itself. -/
theorem decode?_plain {s : List Char} (h : '%' ∉ s) : decode? s = some (octets s) := by
  induction s with
  | nil => rfl
  | cons c s ih =>
    obtain ⟨hc, hs⟩ := not_or.mp (fun hmem => h (List.mem_cons.mpr hmem))
    rw [decode?_cons (Ne.symm hc), ih hs]
    rfl

/-- Reading a part never makes it longer, and makes it shorter if there is an escape in it. -/
theorem length_decode? {s : List Char} {bs : List UInt8} (h : decode? s = some bs) :
    bs.length ≤ (octets s).length ∧ (bs.length = (octets s).length → '%' ∉ s) := by
  fun_induction decode? s generalizing bs with
  | case1 =>
    obtain rfl := Option.some.inj h
    simp
  -- three characters are read as one octet, so an escape always makes it shorter
  | case2 high low s ih =>
    obtain ⟨b, -, h⟩ := Option.bind_eq_some_iff.mp h
    obtain ⟨bs, hbs, h⟩ := Option.bind_eq_some_iff.mp h
    obtain rfl := Option.some.inj h
    have hle := (ih hbs).1
    have hhigh := length_utf8EncodeChar_pos high
    have hlow := length_utf8EncodeChar_pos low
    have hsign := length_utf8EncodeChar_pos '%'
    simp only [octets_cons, List.length_append, List.length_cons]
    omega
  | case3 s => cases h
  | case4 c s _ hc ih =>
    obtain ⟨bs, hbs, h⟩ := Option.bind_eq_some_iff.mp h
    obtain rfl := Option.some.inj h
    obtain ⟨hle, hplain⟩ := ih hbs
    simp only [octets_cons, List.length_append, List.mem_cons, not_or]
    exact ⟨by omega, fun hlength => ⟨Ne.symm hc, hplain (by omega)⟩⟩

/-- A part that is read as a text of its own length is that text, and there is no escape in it. -/
theorem decode?_of_length {s t : List Char} (h : decode? s = some (octets t))
    (hlength : (octets s).length ≤ (octets t).length) : s = t ∧ '%' ∉ s := by
  obtain ⟨hle, hplain⟩ := length_decode? h
  have hs := hplain (by omega)
  rw [decode?_plain hs] at h
  exact ⟨octets_inj (Option.some.inj h), hs⟩

/-! ## Cuts -/

theorem cut_eq_some {c : Char} {s a b : List Char} :
    cut c s = (a, some b) ↔ s = a ++ c :: b ∧ c ∉ a := by
  induction s generalizing a with
  | nil => simp [cut]
  | cons d s ih =>
    rw [cut]
    by_cases hd : d = c
    -- the character is found at the front, so nothing stands before it
    · subst hd
      rw [if_pos rfl]
      constructor
      · intro h
        obtain ⟨rfl, hs⟩ := Prod.mk.inj h
        rw [Option.some.inj hs]
        exact ⟨rfl, List.not_mem_nil⟩
      · rintro ⟨h, ha⟩
        cases a with
        | nil => rw [(List.cons.inj h).2]
        | cons e a => exact absurd ((List.cons.inj h).1 ▸ List.mem_cons_self) ha
    · rw [if_neg hd]
      constructor
      · intro h
        obtain ⟨rfl, hb⟩ := Prod.mk.inj h
        have hcut : cut c s = ((cut c s).1, some b) := by rw [← hb]
        obtain ⟨hs, ha⟩ := ih.mp hcut
        exact ⟨congrArg (d :: ·) hs, by simp [Ne.symm hd, ha]⟩
      · rintro ⟨h, ha⟩
        cases a with
        | nil => exact absurd (List.cons.inj h).1 hd
        | cons e a =>
          obtain ⟨rfl, hs⟩ := List.cons.inj h
          rw [ih.mpr ⟨hs, fun hmem => ha (List.mem_cons_of_mem _ hmem)⟩]

/-- Credentials end at the first at sign and hold no slash. -/
theorem credentials_eq {s login rest : List Char} (h : login ≠ []) :
    credentials s = (login, rest) ↔ s = login ++ '@' :: rest ∧ '@' ∉ login ∧ '/' ∉ login := by
  unfold credentials
  constructor
  · intro heq
    split at heq
    · next front rest' hcut =>
      split at heq
      · exact absurd (Prod.mk.inj heq).1.symm h
      · next hslash =>
        obtain ⟨rfl, rfl⟩ := Prod.mk.inj heq
        obtain ⟨hs, hat⟩ := cut_eq_some.mp hcut
        exact ⟨hs, hat, hslash⟩
    · exact absurd (Prod.mk.inj heq).1.symm h
  · rintro ⟨hs, hat, hslash⟩
    rw [cut_eq_some.mpr ⟨hs, hat⟩]
    exact if_neg hslash

theorem server?_eq {s host port : List Char} :
    server? s = some (host, some port) ↔
      s = host ++ ':' :: port ∧ ':' ∉ host ∧ ',' ∉ s ∧ s.head? ≠ some '[' := by
  rw [server?]
  by_cases hs : ',' ∈ s ∨ s.head? = some '['
  · rw [if_pos hs]
    refine iff_of_false nofun ?_
    rintro ⟨-, -, hcomma, hbracket⟩
    exact hs.elim hcomma hbracket
  · rw [if_neg hs, Option.some.injEq, cut_eq_some]
    obtain ⟨hcomma, hbracket⟩ := not_or.mp hs
    exact ⟨fun ⟨hs, hhost⟩ => ⟨hs, hhost, hcomma, hbracket⟩, fun ⟨hs, hhost, _⟩ => ⟨hs, hhost⟩⟩

theorem part?_eq_some {s : List Char} {bs : List UInt8} :
    part? s = some (some bs) ↔ s ≠ [] ∧ decode? s = some bs := by
  rw [part?]
  by_cases hs : s = []
  · rw [if_pos hs]
    exact iff_of_false nofun fun h => h.1 hs
  · rw [if_neg hs]
    simp [hs]

theorem length_splitOn (c : Char) (s : List Char) : (s.splitOn c).length = s.count c + 1 := by
  unfold List.splitOn
  induction s with
  | nil => simp
  | cons d s ih =>
    rw [List.splitOnP_cons_eq_if_modifyHead]
    by_cases hd : d = c
    · subst hd
      simpa using ih
    · simpa [hd] using ih

theorem splitOn_eq_singleton_iff {c : Char} {s t : List Char} :
    s.splitOn c = [t] ↔ s = t ∧ c ∉ s := by
  constructor
  · intro h
    have hlength := length_splitOn c s
    have hjoin : [c].intercalate (s.splitOn c) = s := List.intercalate_splitOn c
    rw [h] at hlength hjoin
    refine ⟨by simpa using hjoin.symm, List.count_eq_zero.mp ?_⟩
    simpa using hlength.symm
  · rintro ⟨rfl, hc⟩
    exact List.splitOn_eq_singleton hc

theorem parameter?_eq_some {s : List Char} {k v : List UInt8} :
    parameter? s = some (k, v) ↔ ∃ key value, s = key ++ '=' :: value ∧ '=' ∉ key ∧
      '=' ∉ value ∧ decode? key = some k ∧ decode? value = some v := by
  unfold parameter?
  constructor
  · intro h
    split at h
    · next key value hcut =>
      obtain ⟨hs, hkey⟩ := cut_eq_some.mp hcut
      split at h
      · cases h
      · next hvalue =>
        obtain ⟨k', hk, h⟩ := Option.bind_eq_some_iff.mp h
        obtain ⟨v', hv, h⟩ := Option.bind_eq_some_iff.mp h
        obtain ⟨rfl, rfl⟩ := Prod.mk.inj (Option.some.inj h)
        exact ⟨key, value, hs, hkey, hvalue, hk, hv⟩
    · cases h
  · rintro ⟨key, value, hs, hkey, hvalue, hk, hv⟩
    rw [cut_eq_some.mpr ⟨hs, hkey⟩]
    simp [hvalue, hk, hv]

theorem mapM_eq_some {α β : Type} {f : α → Option β} {xs : List α} {ys : List β} :
    xs.mapM f = some ys ↔ xs.map f = ys.map some := by
  -- the results are left general, for the rest of them belongs to the rest of the list
  induction xs generalizing ys with
  | nil => cases ys <;> simp
  | cons x xs ih =>
    rw [List.mapM_cons, List.map_cons]
    cases hx : f x with
    | none => cases ys <;> simp
    | some y =>
      cases ys with
      | nil => cases xs.mapM f <;> simp
      | cons z ys =>
        rw [List.map_cons, List.cons.injEq, ← ih]
        cases xs.mapM f <;> simp

/-- There is one parameter if no ampersand stands in it. -/
theorem parameters?_eq_singleton {s : List Char} {e : List UInt8 × List UInt8} :
    parameters? s = some [e] ↔ parameter? s = some e ∧ '&' ∉ s := by
  rw [parameters?]
  by_cases hs : s = []
  · subst hs
    exact iff_of_false nofun fun h => nomatch h.1
  · rw [if_neg hs, mapM_eq_some, List.map_singleton, List.map_eq_singleton_iff]
    constructor
    · rintro ⟨t, hsplit, ht⟩
      obtain ⟨rfl, hamp⟩ := splitOn_eq_singleton_iff.mp hsplit
      exact ⟨ht, hamp⟩
    · rintro ⟨he, hamp⟩
      exact ⟨s, splitOn_eq_singleton_iff.mpr ⟨rfl, hamp⟩, he⟩

/-! ## Pieces -/

namespace Pieces

/-- Pieces in their places. -/
def body (p : Pieces) : List Char :=
  (p.user ++ ':' :: p.password) ++ '@' ::
    (((p.host ++ ':' :: p.port) ++ '/' :: p.database) ++ '?' :: p.query)

/-- No piece is empty. -/
structure Full (p : Pieces) : Prop where
  user : p.user ≠ []
  password : p.password ≠ []
  host : p.host ≠ []
  port : p.port ≠ []
  database : p.database ≠ []
  query : p.query ≠ []

/-- No piece holds a sign that would end it, and the host does not open a bracket. -/
structure Apart (p : Pieces) : Prop where
  user : ∀ c ∈ ['@', '/', ':'], c ∉ p.user
  password : ∀ c ∈ ['@', '/'], c ∉ p.password
  host : ∀ c ∈ ['?', '/', ':', ','], c ∉ p.host
  bracket : p.host.head? ≠ some '['
  port : ∀ c ∈ ['?', '/', ','], c ∉ p.port
  database : '?' ∉ p.database

end Pieces

theorem eq_some_of_getD {o : Option (List Char)} (h : o.getD [] ≠ []) : ∃ s, o = some s := by
  cases o with
  | none => exact absurd rfl h
  | some s => exact ⟨s, rfl⟩

section

variable {p : Pieces} (h : p.Full)
include h

/-- Full pieces that an address was taken apart into stand in their places and are apart. -/
theorem body_of_pieces? {s : List Char} (hs : pieces? s = some p) : s = p.body ∧ p.Apart := by
  rcases hlogin : credentials s with ⟨login, rest⟩
  rcases huser : cut ':' login with ⟨user, password⟩
  rcases hquery : cut '?' rest with ⟨place, query⟩
  rcases hdatabase : cut '/' place with ⟨server, database⟩
  rw [pieces?, hlogin] at hs
  simp only [huser, hquery, hdatabase] at hs
  obtain ⟨⟨host, port⟩, hserver, hs⟩ := Option.bind_eq_some_iff.mp hs
  obtain rfl := Option.some.inj hs
  -- Nothing is empty, so nothing was missing.
  obtain ⟨password, rfl⟩ := eq_some_of_getD h.password
  obtain ⟨port, rfl⟩ := eq_some_of_getD h.port
  obtain ⟨database, rfl⟩ := eq_some_of_getD h.database
  obtain ⟨query, rfl⟩ := eq_some_of_getD h.query
  obtain ⟨rfl, hcolon⟩ := cut_eq_some.mp huser
  obtain ⟨rfl, hmark⟩ := cut_eq_some.mp hquery
  obtain ⟨rfl, hslash⟩ := cut_eq_some.mp hdatabase
  obtain ⟨rfl, hcolon', hcomma, hbracket⟩ := server?_eq.mp hserver
  obtain ⟨rfl, hat, hslash'⟩ := (credentials_eq (by simp)).mp hlogin
  rw [List.head?_append_of_ne_nil _ h.host] at hbracket
  simp only [List.mem_append, List.mem_cons, not_or] at hat hslash hslash' hmark hcomma
  exact ⟨rfl, by simp [hat, hslash', hcolon], by simp [hat, hslash'],
    by simp [hmark, hslash, hcolon', hcomma], hbracket, by simp [hmark, hslash, hcomma],
    hmark.2.2⟩

theorem pieces?_body (hp : p.Apart) : pieces? p.body = some p := by
  -- the cuts are made in the order of the reader, each on what the one in front of it left
  have hlogin : credentials p.body = (p.user ++ ':' :: p.password, _) :=
    (credentials_eq (by simp)).mpr
      ⟨rfl, by simp [hp.user, hp.password], by simp [hp.user, hp.password]⟩
  have huser : cut ':' (p.user ++ ':' :: p.password) = (p.user, some p.password) :=
    cut_eq_some.mpr ⟨rfl, by simp [hp.user]⟩
  have hquery : cut '?' (((p.host ++ ':' :: p.port) ++ '/' :: p.database) ++ '?' :: p.query) =
      (_, some p.query) :=
    cut_eq_some.mpr ⟨rfl, by simp [hp.host, hp.port, hp.database]⟩
  have hdatabase : cut '/' ((p.host ++ ':' :: p.port) ++ '/' :: p.database) =
      (_, some p.database) :=
    cut_eq_some.mpr ⟨rfl, by simp [hp.host, hp.port]⟩
  have hserver : server? (p.host ++ ':' :: p.port) = some (p.host, some p.port) := by
    refine server?_eq.mpr ⟨rfl, by simp [hp.host], by simp [hp.host, hp.port], ?_⟩
    rw [List.head?_append_of_ne_nil _ h.host]
    exact hp.bracket
  rw [pieces?, hlogin]
  simp only [huser, hquery, hdatabase, hserver]
  rfl

end

/-- What full pieces with one parameter say. -/
theorem Pieces.target?_eq_some {p : Pieces} {u w h o d : List UInt8}
    {e : List UInt8 × List UInt8} :
    p.target? = some ⟨some u, some w, some h, some o, some d, [e]⟩ ↔
      p.Full ∧ (decode? p.user = some u ∧ decode? p.password = some w ∧ decode? p.host = some h ∧
        decode? p.port = some o ∧ decode? p.database = some d) ∧
      parameter? p.query = some e ∧ '&' ∉ p.query := by
  -- a parameter has an equals sign, so the query that it is read from is not empty
  have hquery : parameter? p.query = some e → p.query ≠ [] := by
    intro he hnil
    rw [hnil] at he
    cases he
  simp only [target?, Option.bind_eq_bind, Option.bind_eq_some_iff, Option.pure_def,
    Option.some.injEq, Target.mk.injEq]
  constructor
  · rintro ⟨_, hu, _, hw, _, hh, _, ho, _, hd, _, he, rfl, rfl, rfl, rfl, rfl, rfl⟩
    obtain ⟨he, hamp⟩ := parameters?_eq_singleton.mp he
    rw [part?_eq_some] at hu hw hh ho hd
    exact ⟨⟨hu.1, hw.1, hh.1, ho.1, hd.1, hquery he⟩, ⟨hu.2, hw.2, hh.2, ho.2, hd.2⟩, he, hamp⟩
  · rintro ⟨hp, ⟨hu, hw, hh, ho, hd⟩, he, hamp⟩
    exact ⟨_, part?_eq_some.mpr ⟨hp.user, hu⟩, _, part?_eq_some.mpr ⟨hp.password, hw⟩,
      _, part?_eq_some.mpr ⟨hp.host, hh⟩, _, part?_eq_some.mpr ⟨hp.port, ho⟩,
      _, part?_eq_some.mpr ⟨hp.database, hd⟩, _, parameters?_eq_singleton.mpr ⟨he, hamp⟩,
      rfl, rfl, rfl, rfl, rfl, rfl⟩

theorem read?_scheme (s : List Char) : read? (scheme ++ s) = (pieces? s).bind Pieces.target? := by
  rw [read?, if_pos (List.prefix_append _ _), List.drop_left]

/-! ## Sizes -/

theorem length_octets_body (p : Pieces) : (octets p.body).length =
    (octets p.user).length + (octets p.password).length + (octets p.host).length +
      (octets p.port).length + (octets p.database).length + (octets p.query).length + 5 := by
  have hcolon : (String.utf8EncodeChar ':').length = 1 := rfl
  have hat : (String.utf8EncodeChar '@').length = 1 := rfl
  have hslash : (String.utf8EncodeChar '/').length = 1 := rfl
  have hmark : (String.utf8EncodeChar '?').length = 1 := rfl
  simp only [Pieces.body, octets_append, octets_cons, List.length_append, hcolon, hat, hslash,
    hmark]
  omega

theorem length_octets_query (key value : List Char) :
    (octets (key ++ '=' :: value)).length = (octets key).length + (octets value).length + 1 := by
  have hequals : (String.utf8EncodeChar '=').length = 1 := rfl
  simp only [octets_append, octets_cons, List.length_append, hequals]
  omega

/-- Pieces that stand for the texts of others, and together are as long as they are, are these
texts and hold no escape. -/
theorem Pieces.eq_of_decode? {p q : Pieces} {key value key' value' : List Char}
    (hp : p.query = key ++ '=' :: value) (hq : q.query = key' ++ '=' :: value')
    (hbody : p.body = q.body)
    (user : decode? p.user = some (octets q.user))
    (password : decode? p.password = some (octets q.password))
    (host : decode? p.host = some (octets q.host))
    (port : decode? p.port = some (octets q.port))
    (database : decode? p.database = some (octets q.database))
    (hkey : decode? key = some (octets key')) (hvalue : decode? value = some (octets value')) :
    p = q ∧ value = value' ∧
      ∀ s ∈ [p.user, p.password, p.host, p.port, p.database, value], '%' ∉ s := by
  have hlength : (octets p.body).length = (octets q.body).length := by rw [hbody]
  rw [length_octets_body, length_octets_body, hp, hq, length_octets_query,
    length_octets_query] at hlength
  -- No part is longer than the one that it stands for was, so none is shorter either.
  have huser := (length_decode? user).1
  have hpassword := (length_decode? password).1
  have hhost := (length_decode? host).1
  have hport := (length_decode? port).1
  have hdatabase := (length_decode? database).1
  have hkeys := (length_decode? hkey).1
  have hvalues := (length_decode? hvalue).1
  obtain ⟨huser, huser'⟩ := decode?_of_length user (by omega)
  obtain ⟨hpassword, hpassword'⟩ := decode?_of_length password (by omega)
  obtain ⟨hhost, hhost'⟩ := decode?_of_length host (by omega)
  obtain ⟨hport, hport'⟩ := decode?_of_length port (by omega)
  obtain ⟨hdatabase, hdatabase'⟩ := decode?_of_length database (by omega)
  obtain ⟨rfl, -⟩ := decode?_of_length hkey (by omega)
  obtain ⟨rfl, hvalue'⟩ := decode?_of_length hvalue (by omega)
  refine ⟨?_, rfl, by simp [huser', hpassword', hhost', hport', hdatabase', hvalue']⟩
  rw [Pieces.mk.injEq]
  exact ⟨huser, hpassword, hhost, hport, hdatabase, hp.trans hq.symm⟩

end Relvar.Uri
