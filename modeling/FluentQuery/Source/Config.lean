import FluentQuery.Settings.Fields
import FluentQuery.Table.Display

/-!
Connection details of data sources: how they are read from documents, written as JSON and
displayed.
-/
namespace FluentQuery.Source

structure ApiConfig where
  url : String
  apiKey : Option String
  headers : List (String × String)
deriving DecidableEq, Repr, Inhabited

structure PostgresConfig where
  host : String
  port : UInt16
  database : String
  user : String
  password : String
  schema : Option String
deriving DecidableEq, Repr, Inhabited

structure FileConfig where
  path : String
  format : String
deriving DecidableEq, Repr, Inhabited

namespace ApiConfig

/-- The details in a document; a list longer than the fields is refused. -/
def ofDocument? (document : Document) : Option ApiConfig := do
  let fields ← Fields.of? true ["url", "api_key", "headers"] document
  return {
    url := ← fields.required "url" Document.text?
    apiKey := ← fields.optional "api_key" Document.text?
    headers := ← fields.orDefault "headers" Document.texts? [] }

def json (config : ApiConfig) : Json :=
  .obj [
    ("url", .str config.url),
    ("api_key", .ofText config.apiKey),
    ("headers", .obj (config.headers.map fun header => (header.1, .str header.2)))]

def display (config : ApiConfig) : String :=
  Display.record "ApiConfig" [
    ("url", Display.quoted config.url),
    ("api_key", Display.optionalText config.apiKey),
    ("headers", Display.map (config.headers.map fun header =>
      (Display.quoted header.1, Display.quoted header.2)))]

end ApiConfig

namespace PostgresConfig

def defaultPort : UInt16 := 5432

def ofHost (host : String) : PostgresConfig := ⟨host, defaultPort, "", "", "", none⟩

/-- The details in a document; a list longer than the fields is refused. -/
def ofDocument? (document : Document) : Option PostgresConfig := do
  let fields ← Fields.of? true ["host", "port", "database", "user", "password", "schema"] document
  return {
    host := ← fields.required "host" Document.text?
    port := ← fields.orDefault "port"
      (fun port => (Document.natural? 16 port).map UInt16.ofNat) defaultPort
    database := ← fields.orDefault "database" Document.text? ""
    user := ← fields.orDefault "user" Document.text? ""
    password := ← fields.orDefault "password" Document.text? ""
    schema := ← fields.optional "schema" Document.text? }

def json (config : PostgresConfig) : Json :=
  .obj [
    ("host", .str config.host),
    ("port", .ofNat config.port.toNat),
    ("database", .str config.database),
    ("user", .str config.user),
    ("password", .str config.password),
    ("schema", .ofText config.schema)]

/-- The display of a database's details. The password is not shown. -/
def display (config : PostgresConfig) : String :=
  Display.record "PostgresConfig" [
    ("host", Display.quoted config.host),
    ("port", naturalText config.port.toNat),
    ("database", Display.quoted config.database),
    ("user", Display.quoted config.user),
    ("password", Display.secret),
    ("schema", Display.optionalText config.schema)]

end PostgresConfig

namespace FileConfig

def defaultFormat : String := "CSV"

def ofPath (path : String) : FileConfig := ⟨path, defaultFormat⟩

/-- The details in a document; a list longer than the fields is refused. -/
def ofDocument? (document : Document) : Option FileConfig := do
  let fields ← Fields.of? true ["path", "format"] document
  return {
    path := ← fields.required "path" Document.text?
    format := ← fields.orDefault "format" Document.text? defaultFormat }

def json (config : FileConfig) : Json :=
  .obj [("path", .str config.path), ("format", .str config.format)]

def display (config : FileConfig) : String :=
  Display.record "FileConfig" [
    ("path", Display.quoted config.path),
    ("format", Display.quoted config.format)]

end FileConfig

end FluentQuery.Source
