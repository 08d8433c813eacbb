import FluentQuery.Assoc
import FluentQuery.Error
import FluentQuery.Value.Basic

/-!
Insert statements. The columns are those of the first record, in its order; every other record is
aligned with them, and has NULL where it lacks a column.
-/
namespace FluentQuery

/-- The columns of one record with their values, in order. -/
abbrev Row := List (String × Value)

def Row.ofRecord (record : Record) : Row := record.map fun e => (e.1, Value.ofJson e.2)

/-- The last value that a row gives to a column. -/
def Row.last? (row : Row) (column : String) : Option Value := Assoc.get? column row.reverse

structure Insert where
  table : String
  columns : List String
  rows : List (List Value)
deriving Repr, Inhabited

namespace Insert

def into (table : String) : Insert := ⟨table, [], []⟩

/-- Takes one record in place of those before. -/
def values (insert : Insert) (row : Row) : Insert :=
  { insert with columns := row.map Prod.fst, rows := [row.map Prod.snd] }

def aligned (columns : List String) (row : Row) : List Value :=
  columns.map fun column => (row.last? column).getD .null

/-- Takes these records in place of those before. -/
def valuesMany (insert : Insert) : List Row → Insert
  | [] => { insert with columns := [], rows := [] }
  | first :: rest =>
    let columns := first.map Prod.fst
    { insert with columns := columns, rows := first.map Prod.snd :: rest.map (aligned columns) }

def sql (insert : Insert) : Except Error String :=
  if insert.columns.isEmpty || insert.rows.isEmpty then .error .emptyInsert
  else
    let groups := insert.rows.map fun row => "(" ++ ", ".intercalate (row.map Value.literal) ++ ")"
    .ok ("INSERT INTO " ++ insert.table ++ " (" ++ ", ".intercalate insert.columns ++
      ") VALUES " ++ ", ".intercalate groups)

end Insert

end FluentQuery
