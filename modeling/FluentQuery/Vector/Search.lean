import FluentQuery.Insert
import FluentQuery.Operator
import FluentQuery.Table.Display
import FluentQuery.Text.Scan
import FluentQuery.Vector.Embedding
import FluentQuery.Vector.Model

/-!
Similarity searches over a table model, and inserts that add the embeddings of a record's texts.
-/
namespace FluentQuery.Vector

structure Search where
  model : Model
  filters : List String
  limit : Option Nat
  indexName : Option String
  text : Option String
deriving Repr, Inhabited

/-- The column of the distance between a row and the text that is searched for. -/
def scoreColumn : String := "similarity_score"

namespace Search

def ofModel (model : Model) : Search := ⟨model, [], none, none, none⟩

def usingIndex (search : Search) (name : String) : Search :=
  { search with indexName := some name }

def forText (search : Search) (text : String) : Search := { search with text := some text }

def take (search : Search) (n : Nat) : Search := { search with limit := some n }

/-- The field and the operator of a key: what stands after two underscores names an operator, and
equality is meant where there are none. -/
def splitKey (key : String) : Except Error (String × Operator) :=
  match Text.splitFirst ['_', '_'] key.toList with
  | none => .ok (key, .eq)
  | some (field, suffix) => match Operator.ofSuffix? (String.ofList suffix) with
    | some operator => .ok (String.ofList field, operator)
    | none => .error (.unknownFilterOperator (String.ofList suffix))

def filter (search : Search) (key : String) (value : Value) : Except Error Search := do
  let (field, operator) ← splitKey key
  let condition := field ++ " " ++ operator.text ++ " " ++ value.literal
  return { search with filters := search.filters ++ [condition] }

/-- The conditions of a search, or one that always holds. -/
def condition (search : Search) : String :=
  if search.filters.isEmpty then "1=1" else " AND ".intercalate search.filters

/-- The statement of a search, which needs a text and an index of the model. -/
def sql (embedder : Embedder) (search : Search) : Except Error String :=
  match search.indexName, search.text with
  | some name, some text => match search.model.index? name with
    | none => .error (.unknownIndex name search.model.name)
    | some index => do
      let vector ← embed embedder text index.dim
      return "SELECT *, " ++ index.distance.name ++ "(" ++ index.embeddingColumn ++ ", " ++
        (Value.ofVector vector).literal ++ ") AS " ++ scoreColumn ++ " FROM " ++
        search.model.name ++ " WHERE " ++ search.condition ++ " ORDER BY " ++ scoreColumn ++
        " ASC" ++ (match search.limit with
          | some n => " LIMIT " ++ naturalText n
          | none => "")
  | _, _ => .error .incompleteSearch

def display (search : Search) : String :=
  Display.record "VectorQuery" [
    ("table", Display.quoted search.model.name),
    ("filters", Display.list (search.filters.map Display.quoted)),
    ("limit", Display.option (search.limit.map naturalText)),
    ("index_name", Display.optionalText search.indexName),
    ("search_text", Display.optionalText search.text)]

end Search

namespace Model

/-- The text of a record that an index embeds: a string's contents, or the JSON text of any other
value but null. -/
def sourceText? (index : Index) (record : Record) : Option String :=
  match Assoc.get? index.sourceField record with
  | none => none
  | some .null => none
  | some (.str text) => some text
  | some other => some other.text

/-- The column of an index with the embedding of a record, if the record has a text there. -/
def embedding (embedder : Embedder) (record : Record) (index : Index) :
    Except Error (List (String × Value)) := do
  match sourceText? index record with
  | none => return []
  | some text =>
    let vector ← embed embedder text index.dim
    return [(index.embeddingColumn, Value.ofVector vector)]

def embeddings (model : Model) (embedder : Embedder) (record : Record) :
    Except Error (List (String × Value)) := do
  return (← model.indexes.mapM (embedding embedder record)).flatten

/-- A record as a row with its embeddings. An embedding takes the place of a value that the
record has in its column. -/
def embeddedRow (model : Model) (embedder : Embedder) (record : Record) : Except Error Row := do
  let found ← model.embeddings embedder record
  return found.foldl (fun row entry => Assoc.put entry.1 entry.2 row) (Row.ofRecord record)

def insertSql (model : Model) (embedder : Embedder) (record : Record) : Except Error String := do
  ((Insert.into model.name).values (← model.embeddedRow embedder record)).sql

def insertManySql (model : Model) (embedder : Embedder) (records : List Record) :
    Except Error String := do
  ((Insert.into model.name).valuesMany (← records.mapM (model.embeddedRow embedder))).sql

end Model

end FluentQuery.Vector
