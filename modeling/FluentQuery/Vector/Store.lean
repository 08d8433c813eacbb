import FluentQuery.Assoc
import FluentQuery.Json.Parser
import FluentQuery.Output.Format
import FluentQuery.Vector.Search

/-!
A registry of vector tables behind an engine. A table is registered when all statements that
create it have succeeded.
-/
namespace FluentQuery.Vector

structure Store where
  tables : List (String × Model)
deriving Repr, Inhabited

namespace Store

variable {σ : Type}

def empty : Store := ⟨[]⟩

def run (engine : Engine σ) (sql : String) (state : σ) : Except Error Unit × σ :=
  let (result, state) := engine ⟨sql, .tabSeparated, none⟩ state
  (result.map fun _ => (), state)

/-- Runs statements until one fails. -/
def runAll (engine : Engine σ) : List String → σ → Except Error Unit × σ
  | [], state => (.ok (), state)
  | sql :: rest, state => match run engine sql state with
    | (.ok _, state) => runAll engine rest state
    | (.error e, state) => (.error e, state)

def creation (model : Model) : Except Error (List String) := do
  return (← model.createSql) :: model.indexes.map model.addEmbeddingSql

/-- Creates a table and registers its model, in place of an earlier one of that name. -/
def createTable (store : Store) (engine : Engine σ) (model : Model) (state : σ) :
    Except Error Store × σ :=
  match creation model with
  | .error e => (.error e, state)
  | .ok statements =>
    let (result, state) := runAll engine statements state
    (result.map fun _ => ⟨Assoc.put model.name model store.tables⟩, state)

def table (store : Store) (name : String) : Except Error Model :=
  match Assoc.get? name store.tables with
  | some model => .ok model
  | none => .error (.unknownTable name)

def runResult (engine : Engine σ) (sql : Except Error String) (state : σ) :
    Except Error Unit × σ :=
  match sql with
  | .ok sql => run engine sql state
  | .error e => (.error e, state)

def insert (store : Store) (embedder : Embedder) (engine : Engine σ) (name : String)
    (record : Record) (state : σ) : Except Error Unit × σ :=
  runResult engine (do (← store.table name).insertSql embedder record) state

def insertMany (store : Store) (embedder : Embedder) (engine : Engine σ) (name : String)
    (records : List Record) (state : σ) : Except Error Unit × σ :=
  runResult engine (do (← store.table name).insertManySql embedder records) state

/-- The rows of an answer, one JSON object on each line that is not blank. -/
def rowsOfLines (answer : String) : Except Error (List Record) :=
  let lines := ((Text.splitAll '\n' answer.toList).filter fun line => !line.all Text.isBlank)
  match lines.mapM fun line => (Json.ofChars? line).bind Json.entries? with
  | some rows => .ok rows
  | none => .error .serialization

def search (embedder : Embedder) (engine : Engine σ) (search : Search) (state : σ) :
    Except Error (List Record) × σ :=
  match search.sql embedder with
  | .error e => (.error e, state)
  | .ok sql =>
    let (result, state) := engine ⟨sql, .jsonEachRow, none⟩ state
    (result.bind rowsOfLines, state)

end Store

end FluentQuery.Vector
