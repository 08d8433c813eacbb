import FluentQuery.Error
import FluentQuery.Reader.Shelf
import FluentQuery.Text.Blank

/-!
Output formats and their names, and the engines that answer statements in them. An engine has a
state of its own, which each statement may change, and it answers with rendered rows or an error.
-/
namespace FluentQuery

inductive OutputFormat where
  | prettyCompact
  | json
  | jsonEachRow
  | csv
  | csvWithNames
  | tabSeparated
  | tabSeparatedWithNames
  /-- a form that only some engines know, by its name -/
  | other (name : String)
deriving DecidableEq, Repr

namespace OutputFormat

instance : Inhabited OutputFormat := ⟨prettyCompact⟩

def name : OutputFormat → String
  | prettyCompact => "PrettyCompact"
  | json => "JSON"
  | jsonEachRow => "JSONEachRow"
  | csv => "CSV"
  | csvWithNames => "CSVWithNames"
  | tabSeparated => "TabSeparated"
  | tabSeparatedWithNames => "TabSeparatedWithNames"
  | other name => name

/-- The format that a text names, blanks at its ends aside. -/
def ofText (s : String) : OutputFormat :=
  match Text.trim s with
  | "PrettyCompact" | "pretty" => prettyCompact
  | "JSON" | "json" => json
  | "JSONEachRow" | "jsonl" | "ndjson" => jsonEachRow
  | "CSV" | "csv" => csv
  | "CSVWithNames" => csvWithNames
  | "TabSeparated" | "TSV" | "tsv" => tabSeparated
  | "TabSeparatedWithNames" | "TSVWithNames" => tabSeparatedWithNames
  | name => other name

def isOther : OutputFormat → Bool
  | other _ => true
  | _ => false

end OutputFormat

structure Statement where
  sql : String
  format : OutputFormat
  /-- the reader behind the table function of readers -/
  reader : Option Handle
deriving DecidableEq, Repr, Inhabited

abbrev Engine (σ : Type) := Statement → σ → Except Error String × σ

end FluentQuery
