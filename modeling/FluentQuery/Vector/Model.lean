import FluentQuery.Error
import FluentQuery.Value.Basic

/-!
Table models with vector indexes, and the statements that create their tables.
-/
namespace FluentQuery.Vector

inductive ColumnType where
  | string
  | int64
  | float64
  | bool
  | dateTime
deriving DecidableEq, Repr, Inhabited

def ColumnType.name : ColumnType → String
  | string => "String"
  | int64 => "Int64"
  | float64 => "Float64"
  | bool => "Bool"
  | dateTime => "DateTime"

structure Column where
  name : String
  type : ColumnType
  primaryKey : Bool
  autoUuid : Bool
  defaultNow : Bool
  default : Option Value
deriving Repr, Inhabited

namespace Column

/-- The default of a column: a generated identifier before the current time before a literal. -/
def defaultExpression (column : Column) : Option String :=
  if column.autoUuid then some "generateUUIDv4()"
  else if column.defaultNow then some "now()"
  else column.default.map Value.literal

def sql (column : Column) : String :=
  column.name ++ " " ++ column.type.name ++
    match column.defaultExpression with
    | some expression => " DEFAULT " ++ expression
    | none => ""

end Column

inductive Distance where
  | cosine
  | l2
deriving DecidableEq, Repr, Inhabited

def Distance.name : Distance → String
  | cosine => "cosineDistance"
  | l2 => "L2Distance"

structure Index where
  name : String
  sourceField : String
  dim : Nat
  distance : Distance
deriving DecidableEq, Repr, Inhabited

def Index.embeddingColumn (index : Index) : String := index.sourceField ++ "_embedding"

structure Model where
  name : String
  columns : List Column
  engine : String
  orderBy : List String
  indexes : List Index
deriving Repr, Inhabited

namespace Model

def defaultEngine : String := "MergeTree"

def index? (model : Model) (name : String) : Option Index :=
  model.indexes.find? (·.name = name)

def primaryKeys (model : Model) : List String :=
  (model.columns.filter Column.primaryKey).map Column.name

/-- The sorting key: the columns given for it, else the primary key, else the empty tuple. -/
def sortingKey (model : Model) : String :=
  match if model.orderBy.isEmpty then model.primaryKeys else model.orderBy with
  | [] => "tuple()"
  | [single] => single
  | keys => "(" ++ ", ".intercalate keys ++ ")"

/-- The statement that creates the table, which needs a column. -/
def createSql (model : Model) : Except Error String :=
  if model.columns.isEmpty then .error (.noFields model.name)
  else
    let key := if model.primaryKeys.isEmpty then []
      else ["PRIMARY KEY (" ++ ", ".intercalate model.primaryKeys ++ ")"]
    .ok ("CREATE TABLE IF NOT EXISTS " ++ model.name ++ " (" ++
      ", ".intercalate (model.columns.map Column.sql ++ key) ++ ") ENGINE = " ++ model.engine ++
      " ORDER BY " ++ model.sortingKey)

def addEmbeddingSql (model : Model) (index : Index) : String :=
  "ALTER TABLE " ++ model.name ++ " ADD COLUMN IF NOT EXISTS " ++ index.embeddingColumn ++
    " Array(Float32)"

end Model

end FluentQuery.Vector
