import FluentQuery.Sql.Nesting

/-!
Running commands. A query whose names do not resolve is refused whether it has rows or not. Its
rows are the combinations of the tables' rows, the first table's outermost.
-/
namespace FluentQuery.Sql

structure Answer where
  headings : List String
  rows : List (List Cell)
deriving DecidableEq, Repr, Inhabited

structure Resolved where
  selected : List Selected
  conditions : List Comparison
  limit : Option Int64
deriving DecidableEq, Repr, Inhabited

namespace Query

/-- The tables of a query in the database, each under its visible name. -/
def stored? (query : Query) (database : Database) : Option (List (String × Bool × StoredTable)) :=
  query.tables.mapM fun use =>
    (database.table? use.name).map fun (temporary, table) => (use.visible, temporary, table)

def scope (tables : List (String × Bool × StoredTable)) : Scope :=
  tables.flatMap fun (visible, temporary, table) =>
    table.columns.map fun column => ⟨visible, temporary, column.name, column.affinity⟩

/-- What an item selects. A column without an alias is headed by its own name. -/
def selected? (scope : Scope) (parameters : List Cell) : Item → Option (List Selected)
  | .all => scope.star? fun _ => true
  | .allOf table => scope.star? fun column => sameName column.table table
  | .count aliasName text => some [⟨aliasName, aliasName.getD text, none⟩]
  | .operand operand aliasName text => do
    let term ← scope.resolve? parameters [] operand
    let heading := match term with
      | .column place _ => ((scope[place]?).map ScopeColumn.name).getD text
      | .constant _ => text
    some [⟨aliasName, aliasName.getD heading, some term⟩]

/-- The limit that a cell is; it must be an integer or be as good as one. -/
def limit? (cell : Cell) : Option Int64 :=
  match cell.stored .numeric with
  | .integer n => some n
  | _ => none

/-- Whether nothing of the selection counts rows, or nothing of it is a column. -/
def uniform (selected : List Selected) : Bool :=
  selected.all (fun item => item.term.isSome) ||
    selected.all fun item => match item.term with
      | some (.column _ _) => false
      | _ => true

def resolve? (query : Query) (scope : Scope) (parameters : List Cell) : Option Resolved := do
  let selected := (← query.items.mapM (selected? scope parameters)).flatten
  let conditions ← query.conditions.mapM fun condition => do
    let left ← scope.resolve? parameters selected condition.left
    let right ← scope.resolve? parameters selected condition.right
    some ⟨left, condition.relation, right⟩
  let limit ← match query.limit with
    | none => some none
    | some operand => match Scope.resolve? [] parameters [] operand with
      | some (.constant cell) => (limit? cell).map some
      | _ => none
  if uniform selected then some ⟨selected, conditions, limit⟩ else none

end Query

namespace Resolved

def keeps (query : Resolved) (row : List Cell) : Bool :=
  query.conditions.all fun c =>
    c.relation.holds (c.left.commonAffinity c.right) (c.left.eval row) (c.right.eval row) =
      some true

def used (query : Resolved) : List Nat :=
  let terms := query.selected.filterMap Selected.term ++ query.conditions.flatMap Comparison.terms
  terms.filterMap fun term => match term with
    | .column place _ => some place
    | .constant _ => none

def combinations (query : Resolved) (tables : List StoredTable) : List (List Cell) :=
  let spans := Span.ofWidths 0 (tables.map fun table => table.columns.length)
  Nesting.combinations query.conditions query.used (spans.zip (tables.map StoredTable.rows))

/-- What is selected of the rows that are kept: a row for each, or one row with their number. -/
def select (query : Resolved) (rows : List (List Cell)) : List (List Cell) :=
  let cellsOf (count : Nat) (row : List Cell) : List Cell := query.selected.map fun item =>
    match item.term with
    | some term => term.eval row
    | none => .integer (Int64.ofNat count)
  if query.selected.all fun item => item.term.isSome then rows.map (cellsOf 0)
  else [cellsOf rows.length []]

/-- The first rows, as many as the limit says; a negative limit is none. -/
def limited (query : Resolved) (rows : List (List Cell)) : List (List Cell) :=
  match query.limit with
  | none => rows
  | some n => if n < 0 then rows else rows.take n.toInt.toNat

end Resolved

def Query.run? (query : Query) (parameters : List Cell) (database : Database) :
    Option Answer := do
  let tables ← query.stored? database
  let resolved ← query.resolve? (scope tables) parameters
  let rows := (resolved.combinations (tables.map fun (_, _, table) => table)).filter resolved.keeps
  some ⟨resolved.selected.map Selected.heading, resolved.limited (resolved.select rows)⟩

/-- What a command gives and the database after it, unless it is refused. A command other than a
query gives nothing. -/
def Command.run? (command : Command) (parameters : List Cell) (database : Database) :
    Option (Answer × Database) :=
  match command with
  | .nothing => some (⟨[], []⟩, database)
  | .query asked => (asked.run? parameters database).map (·, database)
  | .create temporary name columns =>
    (database.create temporary name columns).map (⟨[], []⟩, ·)
  | .drop ifExists name =>
    if ifExists || (database.table? name).isSome then some (⟨[], []⟩, database.drop name) else none
  | .insert name columns rows => do
    let (_, table) ← database.table? name
    let names := columns.getD (table.columns.map Column.name)
    let rows ← rows.mapM fun row => do
      let values ← row.mapM fun operand => match Scope.resolve? [] parameters [] operand with
        | some (.constant cell) => some cell
        | _ => none
      table.rowOf? names values
    some (⟨[], []⟩, database.modify name (·.append rows))

end FluentQuery.Sql
