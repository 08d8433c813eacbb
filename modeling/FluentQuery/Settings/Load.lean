import FluentQuery.Settings.Basic
import FluentQuery.Settings.Fields
import FluentQuery.Toml.Parser

/-!
Reading settings from documents and configuration files. What a document does not say keeps its
default.
-/
namespace FluentQuery

def EngineSettings.ofDocument? (exact : Bool) (document : Document) : Option EngineSettings := do
  let fields ← Fields.of? exact ["database_url", "output_format", "batch_size"] document
  let default : EngineSettings := default
  return {
    databaseUrl := ← fields.orDefault "database_url" Document.text? default.databaseUrl
    outputFormat := ← fields.orDefault "output_format" Document.text? default.outputFormat
    batchSize := ← fields.orDefault "batch_size" (Document.natural? 64) default.batchSize }

def OracleSettings.ofDocument? (exact : Bool) (document : Document) : Option OracleSettings := do
  let fields ← Fields.of? exact ["endpoint", "model", "max_tokens", "api_key", "timeout_secs"]
    document
  let default : OracleSettings := default
  return {
    endpoint := ← fields.orDefault "endpoint" Document.text? default.endpoint
    model := ← fields.orDefault "model" Document.text? default.model
    maxTokens := ← fields.orDefault "max_tokens" (Document.natural? 32) default.maxTokens
    apiKey := ← fields.orDefault "api_key" Document.textOrNull? default.apiKey
    timeoutSecs := ← fields.orDefault "timeout_secs" (Document.natural? 64) default.timeoutSecs }

namespace Settings

def ofDocument? (exact : Bool) (document : Document) : Option Settings := do
  let fields ← Fields.of? exact ["executor", "oracle"] document
  return {
    engine := ← fields.orDefault "executor" (EngineSettings.ofDocument? exact) default
    oracle := ← fields.orDefault "oracle" (OracleSettings.ofDocument? exact) default }

def ofJson? (j : Json) : Option Settings := ofDocument? true (.ofJson j)

def ofToml? (contents : String) : Option Settings :=
  (Toml.ofText? contents).bind (ofDocument? false)

/-- The usable settings of a configuration file, whose contents `read` takes; `none` is a file that
does not exist. -/
def loadWith (read : String → Option Settings) : Option String → Except Error Settings
  | none => .error .io
  | some contents => match read contents with
    | none => .error .configSyntax
    | some settings => settings.check.map fun _ => settings

/-- The settings of an application: those of the configuration file if there is one, and the
defaults otherwise, with what the environment overrides. `contents` gives the file that a path
names. -/
def resolveWith (read : String → Option Settings) (contents : String → Option String)
    (environment : Environment) : Except Error Settings := do
  let base ← match (environment pathVariable).bind contents with
    | some contents => loadWith read (some contents)
    | none => .ok default
  let settings := base.overridden environment
  settings.check
  return settings

def load : Option String → Except Error Settings := loadWith ofToml?

def resolve : (String → Option String) → Environment → Except Error Settings := resolveWith ofToml?

end Settings

end FluentQuery
