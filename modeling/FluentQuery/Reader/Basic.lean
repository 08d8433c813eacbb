import FluentQuery.Assoc
import FluentQuery.Error
import FluentQuery.Json.Basic

/-!
Readers give rows page by page, one column at a time; where they stand is part of their state. A
memory reader holds whole columns and starts over after its end has been reached; a feed gives
prepared pages and then nothing.
-/
namespace FluentQuery

/-- The type tag of each column, sorted by column. -/
abbrev Schema := List (String × String)

/-- The cells of each column, sorted by column. -/
abbrev Columns := List (String × List Json)

abbrev Page := List (List Json)

namespace Columns

def keysOf (records : List Record) : List String :=
  Assoc.keys (Assoc.sortedOfPairs (records.flatMap fun record => record.map fun e => (e.1, ())))

/-- One column for each key that occurs; a record without the key has null there. -/
def ofRecords (records : List Record) : Columns :=
  (keysOf records).map fun key =>
    (key, records.map fun record => (Assoc.get? key record).getD .null)

def tagOf : Json → String
  | .int _ => "Int64"
  | .float _ => "Float64"
  | .bool _ => "Bool"
  | _ => "String"

/-- The tag of a column: that of its first value other than null. -/
def tag (cells : List Json) : String :=
  match cells.find? (fun cell => !cell.isNull) with
  | some cell => tagOf cell
  | none => "String"

def schema (columns : Columns) : Schema := columns.map fun column => (column.1, tag column.2)

end Columns

structure Memory where
  name : String
  columns : Columns
  rowCount : Nat
  cursor : Nat
deriving Repr, Inhabited

namespace Memory

/-- A reader at the start of the records. -/
def ofRecords (name : String) (records : List Record) : Memory :=
  ⟨name, Columns.ofRecords records, records.length, 0⟩

/-- Numbers of rows are kept in words; a page may not end beyond the last of them. -/
def rowLimit : Nat := 18446744073709551616

/-- The next `count` rows of the columns, fewer at the end, with nulls for a column that does not
exist. At the end, and where there are no columns, the page is empty and the reader starts over.
There is no answer where the page's end would not be a word. -/
def read (memory : Memory) (columns : List String) (count : Nat) : Option (Page × Memory) :=
  if memory.columns.isEmpty || memory.rowCount ≤ memory.cursor then
    some ([], { memory with cursor := 0 })
  else if rowLimit ≤ memory.cursor + count then none
  else
    let first := memory.cursor
    let last := min (first + count) memory.rowCount
    let page := columns.map fun name =>
      match Assoc.get? name memory.columns with
      | some cells => (cells.drop first).take (last - first)
      | none => List.replicate (last - first) .null
    some (page, { memory with cursor := last })

end Memory

inductive Reader where
  | memory (memory : Memory)
  | feed (name : String) (schema : Schema) (pages : List Page)
deriving Repr, Inhabited

namespace Reader

def name : Reader → String
  | memory m => m.name
  | feed name _ _ => name

def schema : Reader → Schema
  | memory m => m.columns.schema
  | feed _ schema _ => schema

/-- The next page; a feed does not heed what is asked for. -/
def read (columns : List String) (count : Nat) : Reader → Option (Page × Reader)
  | memory m => (m.read columns count).map fun (page, m) => (page, memory m)
  | feed name schema [] => some ([], feed name schema [])
  | feed name schema (page :: pages) => some (page, feed name schema pages)

/-- The rows of a page, as many as its first column has cells; shorter columns are filled with
nulls. -/
def rowsOfPage (page : Page) : List (List Json) :=
  (List.range (page.head?.getD []).length).map fun i =>
    page.map fun column => (column[i]?).getD .null

/-- Reads pages until one has no rows, at most as many as the fuel says. -/
def drainFrom (columns : List String) (batch : Nat) :
    Nat → Reader → Option (List (List Json) × Reader)
  | 0, reader => some ([], reader)
  | fuel + 1, reader => do
    let (page, next) ← reader.read columns batch
    if (rowsOfPage page).isEmpty then some ([], next)
    else
      let (rows, final) ← drainFrom columns batch fuel next
      some (rowsOfPage page ++ rows, final)

/-- The number of pages after which a reader has given an empty one. -/
def pagesLeft : Reader → Nat
  | memory m => m.rowCount - m.cursor + 1
  | feed _ _ pages => pages.length + 1

/-- All rows that are left, one list of cells for each, for a batch of at least one row. -/
def drain (columns : List String) (batch : Nat) (reader : Reader) :
    Option (List (List Json) × Reader) :=
  drainFrom columns batch reader.pagesLeft reader

end Reader

end FluentQuery
