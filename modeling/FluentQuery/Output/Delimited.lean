import FluentQuery.Json.Printer

/-!
Rows as delimited text: comma-separated records with quoted fields where needed, and
tab-separated records with escapes.
-/
namespace FluentQuery

/-- The plain text of a cell: a string's contents, any other value's JSON text, and for null the
text given. -/
def cellText (null : String) : Json → String
  | .null => null
  | .str s => s
  | other => other.text

namespace Csv

def needsQuotes (c : Char) : Bool := c = ',' || c = '"' || c = '\r' || c = '\n'

/-- A field, between quotes if it holds a character that needs them; quotes inside are doubled. -/
def field (s : String) : String :=
  if s.toList.any needsQuotes then
    "\"" ++ String.ofList (s.toList.flatMap fun c => if c = '"' then ['"', '"'] else [c]) ++ "\""
  else s

/-- A record with its line feed. One that would be an empty line is written as an empty field
between quotes. -/
def record (fields : List String) : String :=
  let line := ",".intercalate (fields.map field)
  (if line.isEmpty then "\"\"" else line) ++ "\n"

def render (names : Option (List String)) (rows : List (List Json)) : String :=
  String.join ((names.toList.map record) ++ rows.map fun row => record (row.map (cellText "")))

end Csv

namespace Tsv

/-- A character of a field: backslashes, tabs and line feeds by escapes. -/
def escaped : Char → List Char
  | '\\' => ['\\', '\\']
  | '\t' => ['\\', 't']
  | '\n' => ['\\', 'n']
  | c => [c]

def field (s : String) : String := String.ofList (s.toList.flatMap escaped)

/-- A cell; null has a text that no field has. -/
def cell : Json → String
  | .null => "\\N"
  | other => field (cellText "" other)

/-- Fields with tabs between them, and a line feed. -/
def record (fields : List String) : String := "\t".intercalate fields ++ "\n"

def render (names : Option (List String)) (rows : List (List Json)) : String :=
  String.join ((names.toList.map fun columns => record (columns.map field)) ++
    rows.map fun row => record (row.map cell))

end Tsv

end FluentQuery
