import FluentQuery.Sql.Syntax

/-!
Names in a query. They are resolved in the columns that the tables of the query show one after
another; a column may go by its own name or under the name of its table, but must be the only one
that is meant.
-/
namespace FluentQuery.Sql

/-- A column that a query sees, with the name under which it sees the table. -/
structure ScopeColumn where
  table : String
  temporary : Bool
  name : String
  affinity : Affinity
deriving DecidableEq, Repr, Inhabited

abbrev Scope := List ScopeColumn

/-- An operand whose name is resolved: a cell, or the place of a column in the row. -/
inductive Term where
  | constant (cell : Cell)
  | column (place : Nat) (affinity : Affinity)
deriving DecidableEq, Repr, Inhabited

/-- What is selected under a heading: a term, or the number of rows. -/
structure Selected where
  aliasName : Option String
  heading : String
  term : Option Term
deriving DecidableEq, Repr, Inhabited

namespace Term

def eval (row : List Cell) : Term → Cell
  | constant cell => cell
  | column place _ => row.getD place .null

end Term

namespace Scope

def places (scope : Scope) (holds : ScopeColumn → Bool) : List (Nat × ScopeColumn) :=
  scope.zipIdx.filterMap fun (column, place) => if holds column then some (place, column) else none

/-- Whether a column has this name, in a table of this name if one is given. -/
def isNamed (table : Option String) (name : String) (column : ScopeColumn) : Bool :=
  sameName column.name name && table.all (sameName column.table)

/-- What a bare name is where no column has it: the term of that alias, the text that it may stand
for, or a truth value. -/
def otherwise? (selected : List Selected) (name : String) (orText : Bool) : Option Term :=
  match selected.find? fun item => item.aliasName.any (sameName name) with
  | some item => item.term
  | none =>
    if orText then some (.constant (.text name))
    else if sameName name "true" then some (.constant (.integer 1))
    else if sameName name "false" then some (.constant (.integer 0))
    else none

/-- Resolves an operand: a name must be that of exactly one column. -/
def resolve? (scope : Scope) (parameters : List Cell) (selected : List Selected) :
    Operand → Option Term
  | .value cell => some (.constant cell)
  | .parameter index => some (.constant (parameters.getD index .null))
  | .column table name orText => match scope.places (isNamed table name) with
    | [(place, column)] => some (.column place column.affinity)
    | [] => if table.isNone then otherwise? selected name orText else none
    | _ => none

/-- The selection of all columns of which something holds. There must be one, and each must be
the only one of its name in its table. -/
def star? (scope : Scope) (holds : ScopeColumn → Bool) : Option (List Selected) :=
  let found := scope.places holds
  let isSame (a b : ScopeColumn) : Bool :=
    isNamed (some a.table) a.name b && a.temporary = b.temporary
  let unique := found.all fun (_, column) => (scope.places (isSame column)).length = 1
  if found.isEmpty || !unique then none
  else some (found.map fun (place, column) =>
    ⟨none, column.name, some (.column place column.affinity)⟩)

end Scope

end FluentQuery.Sql
