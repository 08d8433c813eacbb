import FluentQuery.Sql.Select

/-!
A temporary table on top of a database. Main statements: creating it, filling it and dropping it
leave the database below as it is, and a query reads nothing of a database but what the names of its
tables mean.
-/
namespace FluentQuery.Sql

theorem sameName_self (a : String) : sameName a a = true := decide_eq_true rfl

theorem sameName_comm (a b : String) : sameName a b = sameName b a := by
  simp [sameName, eq_comm]

theorem sameName_congr {a b : String} (h : sameName a b = true) (c : String) :
    sameName a c = sameName b c := by
  simp only [sameName, decide_eq_true_eq] at h ⊢
  rw [h]

namespace Database

def topped (database : Database) (table : StoredTable) : Database :=
  { database with temporary := database.temporary ++ [table] }

def Lacks (database : Database) (name : String) : Prop :=
  tableAmong? name database.temporary = none

variable {database : Database} {name other : String} {table : StoredTable}

theorem Lacks.not_sameName (h : database.Lacks name) {table : StoredTable}
    (ht : table ∈ database.temporary) : sameName table.name name = false := by
  simpa using List.find?_eq_none.1 h table ht

theorem lacks_drop (database : Database) (name : String) : (database.drop name).Lacks name := by
  unfold drop Lacks
  split
  · refine List.find?_eq_none.2 fun table ht => ?_
    simpa using (List.mem_filter.1 ht).2
  · next h => simpa using h

theorem tableAmong?_topped (hl : database.Lacks name) (h : sameName table.name name = true)
    (other : String) :
    tableAmong? other (database.topped table).temporary =
      if sameName other name then some table else tableAmong? other database.temporary := by
  have hs : sameName table.name other = sameName other name := by
    rw [sameName_congr h other, sameName_comm]
  rw [topped, tableAmong?, List.find?_append]
  cases ho : sameName other name with
  | true =>
    have hnone : database.temporary.find? (fun table => sameName table.name other) = none := by
      refine List.find?_eq_none.2 fun t ht => ?_
      rw [sameName_comm, sameName_congr ho, sameName_comm, hl.not_sameName ht]
      exact Bool.false_ne_true
    simp [hnone, hs, ho]
  | false => simp [hs, ho, tableAmong?]

theorem isSome_tableAmong?_topped (hl : database.Lacks name)
    (h : sameName table.name name = true) :
    (tableAmong? name (database.topped table).temporary).isSome = true := by
  rw [tableAmong?_topped hl h, if_pos (sameName_self name)]
  rfl

theorem table?_topped (hl : database.Lacks name) (h : sameName table.name name = true)
    (other : String) :
    (database.topped table).table? other =
      if sameName other name then some (true, table) else database.table? other := by
  unfold table?
  rw [tableAmong?_topped hl h]
  split <;> rfl

theorem drop_topped (hl : database.Lacks name) (h : sameName table.name name = true) :
    (database.topped table).drop name = database := by
  have hkeep : (database.temporary ++ [table]).filter (fun table => !sameName table.name name) =
      database.temporary := by
    rw [List.filter_append, List.filter_eq_self.2 fun t ht => by simp [hl.not_sameName ht]]
    simp [h]
  rw [drop, if_pos (isSome_tableAmong?_topped hl h), topped, hkeep]

theorem modify_topped (hl : database.Lacks name) (h : sameName table.name name = true)
    (f : StoredTable → StoredTable) :
    (database.topped table).modify name f = database.topped (f table) := by
  have hkeep : database.temporary.map
      (fun table => if sameName table.name name then f table else table) = database.temporary := by
    refine (List.map_congr_left fun t ht => ?_).trans (List.map_id _)
    simp [hl.not_sameName ht]
  rw [modify, if_pos (isSome_tableAmong?_topped hl h), topped, List.map_append, hkeep]
  simp [topped, h]

theorem create_of_lacks (hl : database.Lacks name) (columns : List Column) :
    database.create true name columns =
      if isInternalName name || columnLimit < columns.length ||
          hasRepeated (columns.map Column.name) then none
      else some (database.topped ⟨name, columns, []⟩) := by
  have hl' : tableAmong? name database.temporary = none := hl
  simp only [create, hl', if_true, Option.isSome_none, Bool.false_or]
  rfl

end Database

/-- A query reads of a database what the names of its tables mean. -/
theorem Query.run?_congr {a b : Database} (h : ∀ name, a.table? name = b.table? name)
    (query : Query) (parameters : List Cell) :
    query.run? parameters a = query.run? parameters b := by
  simp only [run?, stored?, h]

/-- The rows that an insertion adds to a table. -/
def StoredTable.inserted? (table : StoredTable) (columns : Option (List String))
    (rows : List (List Operand)) (parameters : List Cell) : Option (List (List Cell)) :=
  rows.mapM fun row => do
    let values ← row.mapM fun operand => match Scope.resolve? [] parameters [] operand with
      | some (.constant cell) => some cell
      | _ => none
    table.rowOf? (columns.getD (table.columns.map Column.name)) values

theorem run?_insert_topped {database : Database} {name : String} {table : StoredTable}
    (hl : database.Lacks name) (h : sameName table.name name = true)
    (columns : Option (List String)) (rows : List (List Operand)) (parameters : List Cell) :
    (Command.insert name columns rows).run? parameters (database.topped table) =
      (table.inserted? columns rows parameters).map fun rows =>
        (⟨[], []⟩, database.topped (table.append rows)) := by
  have htable : (database.topped table).table? name = some (true, table) := by
    rw [Database.table?_topped hl h, if_pos (sameName_self name)]
  have hmodify := fun added => Database.modify_topped hl h (·.append added)
  simp only [Command.run?, htable, StoredTable.inserted?, Option.bind_eq_bind, Option.bind_some,
    hmodify]
  rw [Option.map_eq_bind]
  rfl

end FluentQuery.Sql
