import FluentQuery.Assoc
import FluentQuery.Error
import FluentQuery.Output.Format
import FluentQuery.Output.Grid

/-!
Rendering of rows in an output format.
-/
namespace FluentQuery

/-- A result: the names of its columns, and rows that may be shorter or longer. -/
structure ResultTable where
  columns : List String
  rows : List (List Json)
deriving Repr, Inhabited

namespace ResultTable

/-- A row as an object: each column with its cell, null where the row is too short. Of columns of
one name the last counts. -/
def rowObject (columns : List String) (row : List Json) : Record :=
  Assoc.ofPairs (columns.zip (row ++ List.replicate (columns.length - row.length) .null))

def document (table : ResultTable) : Json :=
  .obj [
    ("meta", .arr (table.columns.map fun name => .obj [("name", .str name)])),
    ("data", .arr (table.rows.map fun row => .obj (rowObject table.columns row))),
    ("rows", .ofNat table.rows.length)]

def jsonLines (table : ResultTable) : String :=
  String.join (table.rows.map fun row => (Json.obj (rowObject table.columns row)).text ++ "\n")

def render (format : OutputFormat) (table : ResultTable) : Except Error String :=
  match format with
  | .prettyCompact =>
    .ok (Grid.render table.columns (table.rows.map (·.map (cellText "NULL"))))
  | .json => .ok table.document.text
  | .jsonEachRow => .ok table.jsonLines
  | .csv => .ok (Csv.render none table.rows)
  | .csvWithNames => .ok (Csv.render (some table.columns) table.rows)
  | .tabSeparated => .ok (Tsv.render none table.rows)
  | .tabSeparatedWithNames => .ok (Tsv.render (some table.columns) table.rows)
  | .other name => .error (.unsupportedFormat name)

end ResultTable

end FluentQuery
