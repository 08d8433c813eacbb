import FluentQuery.Embedded.Redirect
import FluentQuery.Output.Render
import FluentQuery.Sql.Cell

/-!
Statements on a database, over a connection that its driver gives. For a statement that reads from
a reader, the executor first drains the reader into a temporary table, which it removes afterwards.
-/
namespace FluentQuery

open Sql

/-- A connection to a database, with states of type `σ`. A text may hold several commands, and what
ran before one of them was refused may have changed the state. -/
structure Connection (σ : Type) where
  /-- runs a text with parameters; whether it was accepted -/
  execute : String → List Cell → σ → Bool × σ
  /-- the headings of the rows that a text gives -/
  prepare : String → σ → Option (List String) × σ
  /-- the rows that a text gives -/
  fetch : String → σ → Option (List (List Cell)) × σ

namespace Connection

variable {σ : Type}

def executeAll (connection : Connection σ) : List (String × List Cell) → σ → Bool × σ
  | [], state => (true, state)
  | (sql, parameters) :: texts, state => match connection.execute sql parameters state with
    | (true, state) => connection.executeAll texts state
    | (false, state) => (false, state)

/-- Runs a query. Its headings are asked for before its rows. -/
def perform (connection : Connection σ) (sql : String) (state : σ) :
    Except Error ResultTable × σ :=
  match connection.prepare sql state with
  | (none, state) => (.error .database, state)
  | (some headings, state) => match connection.fetch sql state with
    | (none, state) => (.error .database, state)
    | (some rows, state) => (.ok ⟨headings, rows.map fun row => row.map Cell.toJson⟩, state)

end Connection

namespace Embedded

def declaredType (tag : String) : String :=
  if tag = "Int64" ∨ tag = "Bool" then "INTEGER"
  else if tag = "Float64" then "REAL"
  else "TEXT"

/-- A name between double quotes. Quotes inside it are not doubled. -/
def quotedName (name : String) : String := "\"" ++ name ++ "\""

/-- The removal of the table for a reader. The name may also be that of a permanent table. -/
def removalSql : String := "DROP TABLE IF EXISTS " ++ readerTable

def creationSql (schema : Schema) : String :=
  let columns := schema.map fun column => quotedName column.1 ++ " " ++ declaredType column.2
  "CREATE TEMP TABLE " ++ readerTable ++ " (" ++ ", ".intercalate columns ++ ")"

def insertionSql (columns : List String) : String :=
  "INSERT INTO " ++ readerTable ++ " (" ++ ", ".intercalate (columns.map quotedName) ++
    ") VALUES (" ++ ", ".intercalate (columns.map fun _ => "?") ++ ")"

def insertions (columns : List String) (rows : List (List Json)) : List (String × List Cell) :=
  rows.map fun row => (insertionSql columns, row.map Cell.ofJson)

end Embedded

/-- An executor: the state of its connection, and how many rows it takes from a reader at a time. -/
structure Executor (σ : Type) where
  state : σ
  batch : Nat
deriving DecidableEq, Repr, Inhabited

namespace Executor

open Embedded

variable {σ : Type}

def defaultBatch : Nat := 8192

/-- Takes rows from readers in batches of this size, and of one row at least. -/
def withBatch (executor : Executor σ) (n : Nat) : Executor σ := { executor with batch := max n 1 }

/-- Drains a reader into a new table. An error leaves the database as it is then. -/
def load (connection : Connection σ) (executor : Executor σ) (handle : Handle) (shelf : Shelf) :
    Except Error Unit × Executor σ × Shelf :=
  match shelf.schema handle with
  | .error e => (.error e, executor, shelf)
  | .ok [] => (.error (.noColumns handle.name), executor, shelf)
  | .ok schema =>
    let columns := Assoc.keys schema
    match connection.executeAll [(removalSql, []), (creationSql schema, [])] executor.state with
    | (false, state) => (.error .database, { executor with state := state }, shelf)
    | (true, state) => match shelf.readAll handle columns executor.batch with
      | (.error e, shelf) => (.error e, { executor with state := state }, shelf)
      | (.ok rows, shelf) => match connection.executeAll (insertions columns rows) state with
        | (false, state) => (.error .database, { executor with state := state }, shelf)
        | (true, state) => (.ok (), { executor with state := state }, shelf)

/-- Runs a statement after its reader has been drained into the table to which the statement is
redirected. A removal that is refused takes the place of the answer. -/
def performWith (connection : Connection σ) (executor : Executor σ) (sql : String)
    (handle : Handle) (shelf : Shelf) : Except Error ResultTable × Executor σ × Shelf :=
  match executor.load connection handle shelf with
  | (.error e, executor, shelf) => (.error e, executor, shelf)
  | (.ok (), executor, shelf) =>
    let (result, state) := connection.perform sql executor.state
    let (removed, state) := connection.execute removalSql [] state
    (if removed then result else .error .database, { executor with state := state }, shelf)

/-- The engine. It answers in its own formats only; a reader is not touched unless the statement
has a table function for it. -/
def engine (connection : Connection σ) : Engine (Executor σ × Shelf) :=
  fun statement (executor, shelf) =>
    if statement.format.isOther then
      (.error (.unsupportedFormat statement.format.name), executor, shelf)
    else
      let (result, state) := match statement.reader, redirect? statement.sql with
        | some handle, some sql => executor.performWith connection sql handle shelf
        | _, _ =>
          let (result, state) := connection.perform statement.sql executor.state
          (result, { executor with state := state }, shelf)
      (result.bind (·.render statement.format), state)

end Executor

end FluentQuery
