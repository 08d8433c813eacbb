import FluentQuery.Sql.Syntax

/-!
The tables of a database. Temporary tables lie over the permanent ones: a name means the
temporary table of that name if there is one.
-/
namespace FluentQuery.Sql

structure StoredTable where
  name : String
  columns : List Column
  rows : List (List Cell)
deriving DecidableEq, Repr, Inhabited

structure Database where
  permanent : List StoredTable
  temporary : List StoredTable
deriving DecidableEq, Repr, Inhabited

namespace Database

def empty : Database := ⟨[], []⟩

def tableAmong? (name : String) (tables : List StoredTable) : Option StoredTable :=
  tables.find? fun table => sameName table.name name

/-- The table that a name means, and whether it is a temporary one. -/
def table? (database : Database) (name : String) : Option (Bool × StoredTable) :=
  ((tableAmong? name database.temporary).map (true, ·)).or
    ((tableAmong? name database.permanent).map (false, ·))

def hasRepeated : List String → Bool
  | [] => false
  | name :: names => names.any (sameName name) || hasRepeated names

def isInternalName (name : String) : Bool :=
  (Text.afterLead "sqlite_".toList (Text.lowered name).toList).isSome

/-- The most columns that a table can have. -/
def columnLimit : Nat := 2000

/-- Adds an empty table, unless its name is taken among its kind, or its columns are too many or not
distinct. -/
def create (database : Database) (temporary : Bool) (name : String) (columns : List Column) :
    Option Database :=
  let table : StoredTable := ⟨name, columns, []⟩
  let taken := tableAmong? name (if temporary then database.temporary else database.permanent)
  if taken.isSome || isInternalName name || columnLimit < columns.length ||
      hasRepeated (columns.map Column.name) then none
  else if temporary then some { database with temporary := database.temporary ++ [table] }
  else some { database with permanent := database.permanent ++ [table] }

def drop (database : Database) (name : String) : Database :=
  let others := List.filter fun (table : StoredTable) => !sameName table.name name
  if (tableAmong? name database.temporary).isSome then
    { database with temporary := others database.temporary }
  else { database with permanent := others database.permanent }

def modify (database : Database) (name : String) (f : StoredTable → StoredTable) : Database :=
  let change (table : StoredTable) := if sameName table.name name then f table else table
  if (tableAmong? name database.temporary).isSome then
    { database with temporary := database.temporary.map change }
  else { database with permanent := database.permanent.map change }

end Database

namespace StoredTable

/-- The cell that a row of values has for a column: the value given for its name, else null. -/
def cellFor (names : List String) (values : List Cell) (column : Column) : Cell :=
  match (names.zip values).find? fun given => sameName given.1 column.name with
  | some given => given.2.stored column.affinity
  | none => .null

/-- A row of values for these columns, as the table holds it. The values are as many as the names,
and each name is that of a column. -/
def rowOf? (table : StoredTable) (names : List String) (values : List Cell) :
    Option (List Cell) :=
  if values.length = names.length ∧
      names.all (fun name => table.columns.any fun column => sameName name column.name) then
    some (table.columns.map (cellFor names values))
  else none

def append (table : StoredTable) (rows : List (List Cell)) : StoredTable :=
  { table with rows := table.rows ++ rows }

end StoredTable

end FluentQuery.Sql
