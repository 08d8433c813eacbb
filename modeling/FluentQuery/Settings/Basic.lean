import FluentQuery.Error
import FluentQuery.Json.Basic
import FluentQuery.Number.Integer
import FluentQuery.Output.Format
import FluentQuery.Text.Blank
import FluentQuery.Text.Display

/-!
The settings of an application: their defaults, what the environment overrides, and what makes
them usable.
-/
namespace FluentQuery

structure EngineSettings where
  databaseUrl : String
  outputFormat : String
  batchSize : Nat
deriving DecidableEq, Repr

instance : Inhabited EngineSettings := ⟨⟨"sqlite::memory:", OutputFormat.name default, 8192⟩⟩

def EngineSettings.format (settings : EngineSettings) : OutputFormat :=
  OutputFormat.ofText settings.outputFormat

structure OracleSettings where
  endpoint : String
  model : String
  maxTokens : Nat
  apiKey : Option String
  timeoutSecs : Nat
deriving DecidableEq, Repr

instance : Inhabited OracleSettings :=
  ⟨⟨"https://api.anthropic.com/v1/messages", "claude-3-7-sonnet-latest", 64000, none, 120⟩⟩

structure Settings where
  engine : EngineSettings
  oracle : OracleSettings
deriving DecidableEq, Repr, Inhabited

/-- The display of the oracle's settings. A key is not shown. -/
def OracleSettings.display (settings : OracleSettings) : String :=
  Display.record "OracleConfig" [
    ("endpoint", Display.quoted settings.endpoint),
    ("model", Display.quoted settings.model),
    ("max_tokens", naturalText settings.maxTokens),
    ("api_key", Display.option (settings.apiKey.map fun _ => Display.quoted "***")),
    ("timeout_secs", naturalText settings.timeoutSecs)]

namespace Settings

abbrev Environment := String → Option String

def pathVariable : String := "CHAINQUERY_CONFIG"

def databaseUrlVariable : String := "CHAINQUERY_DATABASE_URL"

def outputFormatVariable : String := "CHAINQUERY_OUTPUT_FORMAT"

def apiKeyVariable : String := "ANTHROPIC_API_KEY"

/-- The settings with what the environment overrides. An empty key overrides nothing. -/
def overridden (settings : Settings) (environment : Environment) : Settings where
  engine := { settings.engine with
    databaseUrl := (environment databaseUrlVariable).getD settings.engine.databaseUrl
    outputFormat := (environment outputFormatVariable).getD settings.engine.outputFormat }
  oracle := { settings.oracle with
    apiKey := match (environment apiKeyVariable).filter (· ≠ "") with
      | some key => some key
      | none => settings.oracle.apiKey }

/-- Whether the settings can be used; the first fault counts. -/
def check (settings : Settings) : Except Error Unit :=
  if settings.engine.batchSize = 0 then .error .zeroBatchSetting
  else if Text.blank settings.engine.databaseUrl then .error .emptyDatabaseUrl
  else if settings.oracle.timeoutSecs = 0 then .error .zeroTimeoutSetting
  else .ok ()

def json (settings : Settings) : Json :=
  .obj [
    ("executor", .obj [
      ("database_url", .str settings.engine.databaseUrl),
      ("output_format", .str settings.engine.outputFormat),
      ("batch_size", .ofNat settings.engine.batchSize)]),
    ("oracle", .obj [
      ("endpoint", .str settings.oracle.endpoint),
      ("model", .str settings.oracle.model),
      ("max_tokens", .ofNat settings.oracle.maxTokens),
      ("api_key", .ofText settings.oracle.apiKey),
      ("timeout_secs", .ofNat settings.oracle.timeoutSecs)])]

end Settings

end FluentQuery
