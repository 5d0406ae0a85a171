/-
Addresses put together from the environment. The parts of an address are written one behind
another as they are. So what reads the address finds the same parts if none of them holds a sign
that means something there, and something else, or nothing, if one does.
-/
import Relvar.Proofs.Database.Target
import Relvar.Proofs.Database.Uri

set_option autoImplicit false

namespace Relvar

namespace Address

open Uri (octets)

/-- The key of the parameter for the mode of encryption. -/
def sslKey : List Char := "sslmode".toList

/-- What an address should say. -/
def target (a : Address) : Uri.Target where
  user := some (octets a.user.toList)
  password := some (octets a.password.toList)
  host := some (octets a.host.toList)
  port := some (octets a.portNumber.toList)
  database := some (octets a.database.toList)
  parameters := [(octets sslKey, octets a.sslMode.toList)]

/-- An address whose parts can be read back: the mode of encryption apart none is empty, and none
holds a percent sign, or a sign that ends it where it stands. -/
structure Legible (a : Address) : Prop where
  user : a.user ≠ "" ∧ ∀ c ∈ ['%', '@', '/', ':'], c ∉ a.user.toList
  password : a.password ≠ "" ∧ ∀ c ∈ ['%', '@', '/'], c ∉ a.password.toList
  host : a.host ≠ "" ∧ a.host.toList.head? ≠ some '[' ∧
    ∀ c ∈ ['%', '?', '/', ':', ','], c ∉ a.host.toList
  port : a.portNumber ≠ "" ∧ ∀ c ∈ ['%', '?', '/', ','], c ∉ a.portNumber.toList
  database : a.database ≠ "" ∧ ∀ c ∈ ['%', '?'], c ∉ a.database.toList
  sslMode : ∀ c ∈ ['%', '&', '='], c ∉ a.sslMode.toList

/-- The parts of an address as the pieces that they are meant to be. -/
def pieces (a : Address) : Uri.Pieces where
  user := a.user.toList
  password := a.password.toList
  host := a.host.toList
  port := a.portNumber.toList
  database := a.database.toList
  query := sslKey ++ '=' :: a.sslMode.toList

theorem toList_text (a : Address) : a.text.toList = Uri.scheme ++ a.pieces.body := by
  have hscheme : "postgresql://".toList = Uri.scheme := rfl
  have hcolon : ":".toList = [':'] := by decide
  have hat : "@".toList = ['@'] := by decide
  have hslash : "/".toList = ['/'] := by decide
  have hquery : "?sslmode=".toList = '?' :: (sslKey ++ ['=']) := by decide
  unfold text
  simp only [toString, String.toList_append, hscheme, hcolon, hat, hslash, hquery]
  simp only [Uri.Pieces.body, pieces, List.append_assoc, List.cons_append, List.nil_append]

theorem Legible.full {a : Address} (h : a.Legible) : a.pieces.Full where
  user := mt String.toList_eq_nil_iff.mp h.user.1
  password := mt String.toList_eq_nil_iff.mp h.password.1
  host := mt String.toList_eq_nil_iff.mp h.host.1
  port := mt String.toList_eq_nil_iff.mp h.port.1
  database := mt String.toList_eq_nil_iff.mp h.database.1
  query := List.append_ne_nil_of_right_ne_nil _ (List.cons_ne_nil _ _)

theorem Legible.apart {a : Address} (h : a.Legible) : a.pieces.Apart where
  user := (List.forall_mem_cons.mp h.user.2).2
  password := (List.forall_mem_cons.mp h.password.2).2
  host := (List.forall_mem_cons.mp h.host.2.2).2
  bracket := h.host.2.1
  port := (List.forall_mem_cons.mp h.port.2).2
  database := h.database.2 '?' (by simp)

/-- An address that says what it should is legible: what was read was no longer than the parts
are, so it is the parts, without an escape. -/
theorem legible_of_read? {a : Address} (h : Uri.read? a.text.toList = some a.target) :
    a.Legible := by
  rw [toList_text, Uri.read?_scheme] at h
  obtain ⟨p, hp, htarget⟩ := Option.bind_eq_some_iff.mp h
  obtain ⟨hfull, ⟨hu, hw, hh, ho, hd⟩, hquery, hamp⟩ := Uri.Pieces.target?_eq_some.mp htarget
  obtain ⟨key, value, hquery, -, hequals, hkey, hvalue⟩ := Uri.parameter?_eq_some.mp hquery
  -- the body is put together from the pieces again, which fixes how long they are in all
  obtain ⟨hbody, hapart⟩ := Uri.body_of_pieces? hfull hp
  obtain ⟨rfl, rfl, hplain⟩ :=
    Uri.Pieces.eq_of_decode? hquery rfl hbody.symm hu hw hh ho hd hkey hvalue
  simp only [List.forall_mem_cons] at hplain
  obtain ⟨hu, hw, hh, ho, hd, hm, -⟩ := hplain
  rw [hquery] at hamp
  exact {
    user := ⟨mt String.toList_eq_nil_iff.mpr hfull.user,
      List.forall_mem_cons.mpr ⟨hu, hapart.user⟩⟩
    password := ⟨mt String.toList_eq_nil_iff.mpr hfull.password,
      List.forall_mem_cons.mpr ⟨hw, hapart.password⟩⟩
    host := ⟨mt String.toList_eq_nil_iff.mpr hfull.host, hapart.bracket,
      List.forall_mem_cons.mpr ⟨hh, hapart.host⟩⟩
    port := ⟨mt String.toList_eq_nil_iff.mpr hfull.port,
      List.forall_mem_cons.mpr ⟨ho, hapart.port⟩⟩
    database := ⟨mt String.toList_eq_nil_iff.mpr hfull.database,
      by simpa using ⟨hd, hapart.database⟩⟩
    sslMode := by simpa using ⟨hm, fun hmem => hamp (by simp [hmem]), hequals⟩ }

theorem Legible.read?_text {a : Address} (h : a.Legible) :
    Uri.read? a.text.toList = some a.target := by
  have hplain {s signs : List Char} (hs : ∀ c ∈ '%' :: signs, c ∉ s) :
      Uri.decode? s = some (octets s) := Uri.decode?_plain (hs '%' List.mem_cons_self)
  have hsigns : '%' ∉ sslKey ∧ '=' ∉ sslKey ∧ '&' ∉ sslKey := by decide
  have hparameter : Uri.parameter? a.pieces.query =
      some (octets sslKey, octets a.sslMode.toList) :=
    Uri.parameter?_eq_some.mpr ⟨sslKey, a.sslMode.toList, rfl, hsigns.2.1,
      h.sslMode '=' (by simp), Uri.decode?_plain hsigns.1, hplain h.sslMode⟩
  rw [toList_text, Uri.read?_scheme, Uri.pieces?_body h.full h.apart, Option.bind_some]
  refine Uri.Pieces.target?_eq_some.mpr ⟨h.full, ⟨hplain h.user.2, hplain h.password.2,
    hplain h.host.2.2, hplain h.port.2, hplain h.database.2⟩, hparameter, ?_⟩
  simp [pieces, hsigns.2.2, h.sslMode]

/-! ## Configuration -/

/-- An environment and settings that give an address part by part, and none as a whole. The user
and the port have defaults. -/
structure Configured (env : Environment) (settings : DatabaseSettings) (a : Address) : Prop where
  whole : settings.address.filter (· != "") = none
  user : env.getD "POSTGRES_USER" "postgres" = a.user
  password : env.get? "POSTGRES_PASSWORD" = some a.password ∧ a.password ≠ ""
  host : env.get? "POSTGRES_HOST" = some a.host ∧ a.host ≠ ""
  port : env.getD "POSTGRES_PORT" "5432" = a.portNumber
  database : env.get? "POSTGRES_DB" = some a.database ∧ a.database ≠ ""
  sslMode : settings.sslMode = a.sslMode

theorem filled?_eq_some {env : Environment} {name v : String} :
    env.filled? name = some v ↔ env.get? name = some v ∧ v ≠ "" := by
  rw [Environment.filled?, Option.filter_eq_some_iff, bne_iff_ne]

theorem Configured.ofEnvironment {env : Environment} {settings : DatabaseSettings} {a : Address}
    (h : a.Configured env settings) : Address.ofEnvironment env settings.sslMode = .ok a := by
  rw [Address.ofEnvironment, filled?_eq_some.mpr h.host, filled?_eq_some.mpr h.database,
    filled?_eq_some.mpr h.password, h.user, h.port, h.sslMode]

end Address

namespace ConnectorName

variable {name : ConnectorName} {s : Session} {c : Connector} {a : Address}

/-- A connector that knows no address yet puts the configured one together. -/
theorem address_configured (hc : name.find? s = some c) (hnew : c.address = none)
    (h : a.Configured s.environment c.settings) : (name.address.run s).1 = .ok a.text := by
  obtain ⟨-, -, haddress, -⟩ := name.address_does s
  rw [haddress, name.target_of_find? hc, Connector.target, Connector.addressIn, hnew]
  dsimp only
  rw [DatabaseSettings.addressIn, h.whole]
  dsimp only
  rw [h.ofEnvironment]
  rfl

/-- **The address of a configured connector.** A connector that knows no address yet, and is
given the parts of one, finds a text as its address. Read as an address the text says the user,
the password, the host, the port, the database and the mode of encryption that were given exactly
if these are legible. -/
theorem address_carries (name : ConnectorName) (s : Session) (c : Connector) (a : Address)
    (hc : name.find? s = some c) (hnew : c.address = none)
    (h : a.Configured s.environment c.settings) :
    ∃ text, (name.address.run s).1 = .ok text ∧
      (Uri.read? text.toList = some a.target ↔ a.Legible) :=
  ⟨a.text, address_configured hc hnew h, Address.legible_of_read?, Address.Legible.read?_text⟩

/-! ## Samples -/

/-- An address with a password. -/
def service (password : String) : Address :=
  ⟨"svc", password, "db.internal", "5432", "app", "require"⟩

/-- A session with a new connector and a password in its environment. -/
def serviceSession (password : String) : Session :=
  { Session.start [("POSTGRES_HOST", "db.internal"), ("POSTGRES_DB", "app"),
      ("POSTGRES_USER", "svc"), ("POSTGRES_PASSWORD", password)] .smooth
      ⟨⟨2026, 10, 17⟩, 0, 0, 0, 0, none⟩ with
    own := some ⟨.default, none⟩ }

theorem configured_service (password : String) (h : password ≠ "") :
    (service password).Configured (serviceSession password).environment .default :=
  have hhost : "db.internal" ≠ "" := by decide
  have hdatabase : "app" ≠ "" := by decide
  ⟨rfl, rfl, ⟨rfl, h⟩, ⟨rfl, hhost⟩, rfl, ⟨rfl, hdatabase⟩, rfl⟩

/-- A password with a colon and a question mark, which mean nothing there, is read back. -/
theorem address_carries_secret :
    (own.find? (serviceSession "s:e?c") = some ⟨.default, none⟩ ∧
      (service "s:e?c").Configured (serviceSession "s:e?c").environment .default) ∧
    (service "s:e?c").Legible ∧
    ∃ text, (own.address.run (serviceSession "s:e?c")).1 = .ok text ∧
      Uri.read? text.toList = some (service "s:e?c").target := by
  have h := configured_service "s:e?c" (by decide)
  have hlegible : (service "s:e?c").Legible := by constructor <;> simp [service]
  obtain ⟨text, htext, hread⟩ := address_carries own _ ⟨.default, none⟩ _ rfl rfl h
  exact ⟨⟨rfl, h⟩, hlegible, text, htext, hread.mpr hlegible⟩

/-- What stands behind the at sign of a password is read as the host. -/
theorem address_splitPassword :
    (service "p@ss").Configured (serviceSession "p@ss").environment .default ∧
    ∃ text, (own.address.run (serviceSession "p@ss")).1 = .ok text ∧
      text = "postgresql://svc:p@ss@db.internal:5432/app?sslmode=require" ∧
      Uri.read? text.toList = some { (service "p@ss").target with
        password := some (Uri.octets "p".toList)
        host := some (Uri.octets "ss@db.internal".toList) } ∧
      Uri.read? text.toList ≠ some (service "p@ss").target :=
  have h := configured_service "p@ss" (by decide)
  ⟨h, (service "p@ss").text, address_configured (c := ⟨.default, none⟩) rfl rfl h,
    by decide +kernel, by decide +kernel, by decide +kernel⟩

end ConnectorName

end Relvar
