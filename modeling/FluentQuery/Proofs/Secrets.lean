import FluentQuery.Proofs.Displays
import FluentQuery.Settings.Basic
import FluentQuery.Source.Basic

/-!
Secrets in displays. Main statement: the displays of tables, databases and oracle settings show
everything but the secrets and whether there is one; the display of an interface shows its key.
-/
namespace FluentQuery

open Display

/-! Values without their secrets. -/

def RemoteTable.masked (t : RemoteTable) : RemoteTable := { t with password := "" }

def Table.masked : Table → Table
  | .remote t => .remote t.masked
  | table => table

/-- The settings without their key, if they have one. -/
def OracleSettings.masked (settings : OracleSettings) : OracleSettings :=
  { settings with apiKey := settings.apiKey.map fun _ => "" }

namespace Source

def PostgresConfig.masked (config : PostgresConfig) : PostgresConfig :=
  { config with password := "" }

/-- The details without the key, if they have one. -/
def ApiConfig.masked (config : ApiConfig) : ApiConfig :=
  { config with apiKey := config.apiKey.map fun _ => "" }

def masked : Source → Source
  | api config records => api config.masked records
  | postgres config => postgres config.masked
  | file config => file config

def key? : Source → Option String
  | api config _ => config.apiKey
  | _ => none

end Source

/-! Fields as they are shown. -/

theorem port_injective {m n : UInt16} (h : naturalText m.toNat = naturalText n.toNat) : m = n :=
  UInt16.toNat_inj.1 (naturalText_injective h)

@[simp] theorem apart_hidden (key other : Option String) :
    Apart (option (key.map fun _ => secret)) (option (other.map fun _ => secret)) := by
  refine apart_option fun s hs t ht => ?_
  obtain ⟨_, -, rfl⟩ := Option.map_eq_some_iff.1 hs
  obtain ⟨_, -, rfl⟩ := Option.map_eq_some_iff.1 ht
  exact apart_self _

theorem hidden_injective {key other : Option String}
    (h : option (key.map fun _ => secret) = option (other.map fun _ => secret)) :
    (key.map fun _ => "") = other.map fun _ => "" := by
  cases key with
  | none =>
    cases other with
    | none => rfl
    | some k => exact absurd (congrArg String.toList h) (by simp [option, case])
  | some k =>
    cases other with
    | none => exact absurd (congrArg String.toList h) (by simp [option, case])
    | some k' => rfl

namespace RemoteTable

theorem display_masked (t : RemoteTable) : t.masked.display = t.display := rfl

theorem display_eq_iff {t u : RemoteTable} : t.display = u.display ↔ t.masked = u.masked := by
  constructor
  · intro h
    have hfields := record_injective (by simp [SameFields]) h
    simp only [List.cons.injEq, Prod.mk.injEq, true_and, and_true] at hfields
    obtain ⟨hhost, hport, hdatabase, htable, huser, hschema⟩ := hfields
    rw [masked, masked, quoted_injective hhost, port_injective hport, quoted_injective hdatabase,
      quoted_injective htable, quoted_injective huser, optionalText_injective hschema]
  · intro h
    rw [← display_masked t, h, display_masked]

end RemoteTable

theorem FileTable.display_injective {t u : FileTable} (h : t.display = u.display) : t = u := by
  have hfields := record_injective (by simp [SameFields]) h
  simp only [List.cons.injEq, Prod.mk.injEq, true_and, and_true] at hfields
  cases t
  cases u
  rw [FileTable.mk.injEq]
  exact hfields.imp quoted_injective quoted_injective

theorem Handle.display_eq_iff {h k : Handle} : h.display = k.display ↔ h.name = k.name := by
  constructor
  · intro he
    have hfields := record_injective (by simp [SameFields]) he
    simp only [List.cons.injEq, Prod.mk.injEq, true_and, and_true] at hfields
    exact quoted_injective hfields
  · intro he
    rw [display, display, he]

namespace Table

def kindChars : Table → List Char
  | .reader _ => ['R', 'e', 'a']
  | .remote _ => ['R', 'e', 'm']
  | .file _ => ['F', 'i', 'l']
  | .raw _ => ['R', 'a', 'w']

theorem take_display (t : Table) : t.display.toList.take 3 = t.kindChars := by
  cases t <;> simp [Table.display, case, kindChars]

theorem kindChars_eq {t u : Table} (h : t.display = u.display) : t.kindChars = u.kindChars := by
  rw [← take_display, h, take_display]

theorem display_masked (t : Table) : t.masked.display = t.display := by
  cases t <;> rfl

/-- Readers are shown by their names alone. -/
theorem display_eq_iff {t u : Table} : t.display = u.display ↔ t.masked = u.masked ∨
    ∃ h k : Handle, t = .reader (some h) ∧ u = .reader (some k) ∧ h.name = k.name := by
  constructor
  · intro h
    have hkind := kindChars_eq h
    cases t with
    | reader handle =>
      cases u with
      | reader handle' =>
        have hoption := case_injective h
        cases handle with
        | none =>
          cases handle' with
          | none => exact .inl rfl
          | some k => exact absurd (congrArg String.toList hoption) (by simp [option, case])
        | some h' =>
          cases handle' with
          | none => exact absurd (congrArg String.toList hoption) (by simp [option, case])
          | some k => exact .inr ⟨h', k, rfl, rfl, Handle.display_eq_iff.1 (case_injective hoption)⟩
      | _ => exact absurd hkind (by simp [kindChars])
    | remote t =>
      cases u with
      | remote u => exact .inl (congrArg remote (RemoteTable.display_eq_iff.1 (case_injective h)))
      | _ => exact absurd hkind (by simp [kindChars])
    | file t =>
      cases u with
      | file u => exact .inl (congrArg file (FileTable.display_injective (case_injective h)))
      | _ => exact absurd hkind (by simp [kindChars])
    | raw text =>
      cases u with
      | raw text' => exact .inl (congrArg raw (quoted_injective (case_injective h)))
      | _ => exact absurd hkind (by simp [kindChars])
  · rintro (h | ⟨h, k, rfl, rfl, hname⟩)
    · rw [← display_masked t, h, display_masked]
    · rw [Table.display, Table.display, Option.map_some, Option.map_some,
        Handle.display_eq_iff.2 hname]

end Table

namespace OracleSettings

theorem display_eq (settings : OracleSettings) : settings.display = record "OracleConfig" [
    ("endpoint", quoted settings.endpoint),
    ("model", quoted settings.model),
    ("max_tokens", naturalText settings.maxTokens),
    ("api_key", option (settings.apiKey.map fun _ => secret)),
    ("timeout_secs", naturalText settings.timeoutSecs)] := rfl

theorem display_masked (settings : OracleSettings) :
    settings.masked.display = settings.display := by
  rw [display_eq, display_eq, masked, Option.map_map]
  rfl

theorem display_eq_iff {settings other : OracleSettings} :
    settings.display = other.display ↔ settings.masked = other.masked := by
  constructor
  · intro h
    rw [display_eq, display_eq] at h
    have hfields := record_injective (by simp [SameFields]) h
    simp only [List.cons.injEq, Prod.mk.injEq, true_and, and_true] at hfields
    obtain ⟨hendpoint, hmodel, htokens, hkey, htimeout⟩ := hfields
    rw [masked, masked, quoted_injective hendpoint, quoted_injective hmodel,
      naturalText_injective htokens, hidden_injective hkey, naturalText_injective htimeout]
  · intro h
    rw [← display_masked settings, h, display_masked]

end OracleSettings

namespace Source

theorem PostgresConfig.display_masked (config : PostgresConfig) :
    config.masked.display = config.display := rfl

theorem PostgresConfig.display_eq_iff {config other : PostgresConfig} :
    config.display = other.display ↔ config.masked = other.masked := by
  constructor
  · intro h
    have hfields := record_injective (by simp [SameFields]) h
    simp only [List.cons.injEq, Prod.mk.injEq, true_and, and_true] at hfields
    obtain ⟨hhost, hport, hdatabase, huser, hschema⟩ := hfields
    rw [masked, masked, quoted_injective hhost, port_injective hport, quoted_injective hdatabase,
      quoted_injective huser, optionalText_injective hschema]
  · intro h
    rw [← display_masked config, h, display_masked]

namespace ApiConfig

theorem display_eq (config : ApiConfig) : config.display = record "ApiConfig" [
    ("url", quoted config.url),
    ("api_key", optionalText config.apiKey),
    ("headers", texts config.headers)] := rfl

@[simp] theorem apart_display (config other : ApiConfig) :
    Apart config.display other.display := by
  rw [display_eq, display_eq]
  exact apart_record (by simp [SameFields])

theorem display_injective {config other : ApiConfig} (h : config.display = other.display) :
    config = other := by
  rw [display_eq, display_eq] at h
  have hfields := record_injective (by simp [SameFields]) h
  simp only [List.cons.injEq, Prod.mk.injEq, true_and, and_true] at hfields
  obtain ⟨hurl, hkey, hheaders⟩ := hfields
  cases config
  cases other
  rw [mk.injEq]
  exact ⟨quoted_injective hurl, optionalText_injective hkey, texts_injective hheaders⟩

end ApiConfig

theorem head_display (source : Source) : source.display.toList.head? = match source.kind with
    | .api => some 'A'
    | .postgres => some 'P'
    | .file => some 'F' := by
  cases source <;> simp [Source.display, record, case, kind]

theorem kind_eq_of_display_eq {source other : Source} (h : source.display = other.display) :
    source.kind = other.kind := by
  have hhead := head_display source
  rw [h, head_display] at hhead
  revert hhead
  cases source.kind <;> cases other.kind <;> simp

theorem key?_eq_of_display_eq {source other : Source} (h : source.display = other.display) :
    source.key? = other.key? := by
  have hkind := kind_eq_of_display_eq h
  cases source with
  | api config records =>
    cases other with
    | api config' records' =>
      have hfields := record_injective (by simp [SameFields]) h
      simp only [List.cons.injEq, Prod.mk.injEq, true_and, and_true] at hfields
      exact congrArg ApiConfig.apiKey (ApiConfig.display_injective hfields.1)
    | _ => cases hkind
  | _ => cases other <;> first | rfl | cases hkind

/-- Sources with the same key show nothing else that is secret. -/
theorem display_eq_of_masked_eq {source other : Source} (h : source.masked = other.masked)
    (hkey : source.key? = other.key?) : source.display = other.display := by
  cases source with
  | api config records =>
    cases other with
    | api config' records' =>
      obtain ⟨url, key, headers⟩ := config
      obtain ⟨url', key', headers'⟩ := config'
      simp only [masked, ApiConfig.masked, api.injEq, ApiConfig.mk.injEq] at h
      obtain ⟨⟨rfl, -, rfl⟩, rfl⟩ := h
      obtain rfl : key = key' := hkey
      rfl
    | _ => cases h
  | postgres config =>
    cases other with
    | postgres config' =>
      exact congrArg (case "Postgres") (PostgresConfig.display_eq_iff.2 (postgres.inj h))
    | _ => cases h
  | file config =>
    cases other with
    | file config' => rw [file.inj h]
    | _ => cases h

end Source

/-- Remote tables, tables, databases and oracle settings that are the same but for their secrets
have the same display, and besides them only readers of one name. Sources that are the same but for
their secrets have the same display just where they have the same key: an interface shows its. -/
theorem display_eq_iff_masked_eq (t u : RemoteTable) (a b : Table)
    (c d : Source.PostgresConfig) (o p : OracleSettings) (source other : Source) :
    (t.display = u.display ↔ t.masked = u.masked) ∧
    (a.display = b.display ↔ a.masked = b.masked ∨
      ∃ h k : Handle, a = .reader (some h) ∧ b = .reader (some k) ∧ h.name = k.name) ∧
    (c.display = d.display ↔ c.masked = d.masked) ∧
    (o.display = p.display ↔ o.masked = p.masked) ∧
    (source.masked = other.masked →
      (source.display = other.display ↔ source.key? = other.key?)) :=
  ⟨RemoteTable.display_eq_iff, Table.display_eq_iff, Source.PostgresConfig.display_eq_iff,
    OracleSettings.display_eq_iff, fun h =>
      ⟨Source.key?_eq_of_display_eq, Source.display_eq_of_masked_eq h⟩⟩

def keyedApi (key : String) : Source := .api ⟨"http://localhost:8000", some key, []⟩ none

/-- Passwords and keys that differ: only those of interfaces are seen. -/
theorem display_eq_iff_masked_eq_keyed :
    let remote (password : String) : RemoteTable :=
      ⟨"db", 5432, "app", "users", "admin", password, none⟩
    let database (password : String) : Source.PostgresConfig :=
      ⟨"db", 5432, "app", "admin", password, none⟩
    let oracle (key : String) : OracleSettings :=
      { (default : OracleSettings) with apiKey := some key }
    (remote "hunter2").display = (remote "").display ∧
      (Table.remote (remote "hunter2")).display = (Table.remote (remote "")).display ∧
      (database "hunter2").display = (database "").display ∧
      (oracle "sk-a").display = (oracle "sk-b").display ∧
      (keyedApi "sk-a").masked = (keyedApi "sk-b").masked ∧
      (keyedApi "sk-a").display ≠ (keyedApi "sk-b").display := by
  intro remote database oracle
  have hmasked : (keyedApi "sk-a").masked = (keyedApi "sk-b").masked := rfl
  obtain ⟨hremote, htable, hdatabase, horacle, hsource⟩ :=
    display_eq_iff_masked_eq (remote "hunter2") (remote "") (.remote (remote "hunter2"))
      (.remote (remote "")) (database "hunter2") (database "") (oracle "sk-a") (oracle "sk-b")
      (keyedApi "sk-a") (keyedApi "sk-b")
  refine ⟨hremote.2 rfl, htable.2 (.inl rfl), hdatabase.2 rfl, horacle.2 rfl, hmasked, ?_⟩
  intro h
  exact absurd ((hsource hmasked).1 h) (by decide)

/-- A secret is shown. -/
theorem display_shows_key : ∃ s t : Source, s.masked = t.masked ∧ s.display ≠ t.display :=
  ⟨keyedApi "sk-a", keyedApi "sk-b", rfl, fun h =>
    absurd (Source.key?_eq_of_display_eq h) (by decide)⟩

end FluentQuery
