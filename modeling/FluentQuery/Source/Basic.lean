import FluentQuery.Plan.Basic
import FluentQuery.Source.Config

/-!
Data sources give tables and plans by name. A collection of an interface is fetched when it is
asked for, and put on the shelf as a memory reader.
-/
namespace FluentQuery

inductive SourceKind where
  | api
  | postgres
  | file
deriving DecidableEq, Repr, Inhabited

namespace SourceKind

def name : SourceKind → String
  | api => "Api"
  | postgres => "Postgres"
  | file => "File"

/-- The kind that a text names, in any case and with blanks at its ends. -/
def ofText (s : String) : Except Error SourceKind :=
  match Text.lowered (Text.trim s) with
  | "api" => .ok api
  | "postgres" => .ok postgres
  | "file" => .ok file
  | other => .error (.unknownSourceKind other)

end SourceKind

abbrev RecordSource := Source.ApiConfig → String → Except Error (List Record)

inductive Source where
  | api (config : Source.ApiConfig) (records : Option RecordSource)
  | postgres (config : Source.PostgresConfig)
  | file (config : Source.FileConfig)

namespace Source

def kind : Source → SourceKind
  | api _ _ => .api
  | postgres _ => .postgres
  | file _ => .file

/-- The table of a name. A file is the same table under every name. -/
def table (source : Source) (name : String) (shelf : Shelf) : Except Error (Table × Shelf) :=
  match source with
  | postgres config => .ok (.remote ⟨config.host, config.port, config.database, name, config.user,
      config.password, config.schema⟩, shelf)
  | file config => .ok (.file ⟨config.path, config.format⟩, shelf)
  | api _ none => .ok (.reader none, shelf)
  | api config (some fetch) => do
    let records ← fetch config name
    let (handle, shelf) := shelf.add (.memory (Memory.ofRecords name records))
    return (.reader (some handle), shelf)

/-- A plan over the table of a name. It notes the column types of a reader. -/
def plan (source : Source) (name : String) (shelf : Shelf) : Except Error (Plan × Shelf) := do
  let (table, shelf) ← source.table name shelf
  let plan ← Plan.ofSource table
  match table.handle? with
  | some handle =>
    let types ← shelf.schema handle
    return (plan.withColumnTypes types, shelf)
  | none => return (plan, shelf)

/-- A plan over a collection, which only interfaces have. -/
def collection (source : Source) (name : String) (shelf : Shelf) :
    Except Error (Plan × Shelf) :=
  if source.kind = .api then source.plan name shelf else .error .noCollections

def json : Source → Json
  | api config _ => config.json
  | postgres config => config.json
  | file config => config.json

def display : Source → String
  | api config records => Display.record "Api" [
      ("config", config.display),
      ("records", Display.bool records.isSome)]
  | postgres config => Display.case "Postgres" config.display
  | file config => Display.case "File" config.display

end Source

end FluentQuery
