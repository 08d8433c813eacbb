import Mathlib.Data.List.Perm.Subperm
import FluentQuery.Proofs.EngineCalls
import FluentQuery.Proofs.RecordColumns
import FluentQuery.Proofs.SelectionText
import FluentQuery.Proofs.StoredCells

/-!
The table for a reader over records, over any connection to a database that stores rows. Main
statements: where the keys can be told apart as names of columns and each has values of one kind, the
table takes the records one after another, each cell as it is, and a selection gives them back.
-/
namespace FluentQuery

namespace Sql

/-- No two of the names differ in the case of letters only. -/
def DistinctNames (names : List String) : Prop :=
  ∀ a ∈ names, ∀ b ∈ names, sameName a b = true → a = b

instance (names : List String) : Decidable (DistinctNames names) :=
  inferInstanceAs (Decidable (∀ a ∈ names, ∀ b ∈ names, _ → _))

structure ColumnNames (names : List String) : Prop where
  ne_nil : names ≠ []
  count : names.length ≤ Database.columnLimit
  identifiers : ∀ name ∈ names, isIdentifier name = true
  distinct : DistinctNames names
  nodup : names.Nodup

end Sql

open Sql Embedded

def columnsOf (schema : Schema) : List Column :=
  schema.map fun column => ⟨column.1, .ofType (declaredType column.2)⟩

section Stores

variable {σ ρ : Type}

/-- How a database stores rows in the table for a reader and gives them back. A column holds of a
cell what `kept` says for its affinity; a selection gives the rows in the order of their insertion,
under the names of the columns. -/
structure Stores (connection : Connection σ) (sight : Sight σ ρ) (kept : Affinity → Cell → Cell) :
    Prop where
  kept_null (affinity : Affinity) : kept affinity .null = .null
  creates {a : σ} (schema : Schema) (hnames : ColumnNames (Assoc.keys schema))
    (hl : (sight.contents a).tables.Lacks readerTable)
    (ho : (sight.contents a).occupied = false) :
    ∃ a', connection.execute (creationSql schema) [] a = (true, a') ∧
      sight.contents a' = (sight.contents a).topped ⟨readerTable, columnsOf schema, []⟩
  inserts {names : List String} {a : σ} {c : Contents ρ} {table : StoredTable}
    (value : String → Cell) (hnames : ColumnNames names)
    (hcolumns : table.columns.map Column.name = names) (ht : table.name = readerTable)
    (hl : c.tables.Lacks readerTable) (hc : sight.contents a = c.topped table) :
    ∃ a', connection.execute (insertionSql names) (names.map value) a = (true, a') ∧
      sight.contents a' = c.topped
        (table.append [table.columns.map fun column => kept column.affinity (value column.name)])
  selects {reader : String} {keys : List String} (hreader : isIdentifier reader = true)
    (hkeys : ColumnNames keys) : Selects connection sight (selectionSql reader keys)
  heads {reader : String} {names keys : List String} {a : σ} {c : Contents ρ}
    {table : StoredTable} (hreader : isIdentifier reader = true) (hnames : ColumnNames names)
    (hkeys : ColumnNames keys) (hsub : keys ⊆ names)
    (hcolumns : table.columns.map Column.name = names) (ht : table.name = readerTable)
    (hl : c.tables.Lacks readerTable) (hc : sight.contents a = c.topped table)
    (hnew : sight.headings a (selectionSql reader keys) = none) :
    (connection.prepare (selectionSql reader keys) a).1 = some keys
  rows {reader : String} {names keys : List String} {a : σ} {c : Contents ρ}
    {table : StoredTable} (hreader : isIdentifier reader = true) (hnames : ColumnNames names)
    (hkeys : ColumnNames keys) (hsub : keys ⊆ names)
    (hcolumns : table.columns.map Column.name = names) (ht : table.name = readerTable)
    (hl : c.tables.Lacks readerTable) (hc : sight.contents a = c.topped table) :
    (connection.fetch (selectionSql reader keys) a).1 =
      some (table.rows.map fun row => keys.map fun key => row.getD (names.idxOf key) .null)

end Stores

/-- Records that a table can hold: the keys are names of columns, the values of a key are of one kind,
and integers are within the signed range. -/
structure Regular (records : List Record) : Prop where
  identifiers : ∀ key ∈ Columns.keysOf records, isIdentifier key = true
  distinct : DistinctNames (Columns.keysOf records)
  uniform : ∀ key ∈ Columns.keysOf records, ∀ a ∈ records, ∀ b ∈ records,
    (valueAt a key).isNull = false → (valueAt b key).isNull = false →
      Columns.tagOf (valueAt a key) = Columns.tagOf (valueAt b key)
  narrow : ∀ record ∈ records, ∀ key ∈ Columns.keysOf records, Narrow (valueAt record key)

instance (records : List Record) : Decidable (Regular records) :=
  decidable_of_iff ((∀ key ∈ Columns.keysOf records, isIdentifier key = true) ∧
      DistinctNames (Columns.keysOf records) ∧
      (∀ key ∈ Columns.keysOf records, ∀ a ∈ records, ∀ b ∈ records,
        (valueAt a key).isNull = false → (valueAt b key).isNull = false →
          Columns.tagOf (valueAt a key) = Columns.tagOf (valueAt b key)) ∧
      ∀ record ∈ records, ∀ key ∈ Columns.keysOf records, Narrow (valueAt record key))
    ⟨fun ⟨h1, h2, h3, h4⟩ => ⟨h1, h2, h3, h4⟩,
      fun h => ⟨h.identifiers, h.distinct, h.uniform, h.narrow⟩⟩

section Tables

variable {records : List Record}

def columnFor (records : List Record) (key : String) : Column :=
  ⟨key, affinityOf (Columns.tag (records.map fun record => valueAt record key))⟩

def cellsOf (keys : List String) (record : Record) : List Cell :=
  keys.map fun key => Cell.ofJson (valueAt record key)

def recordTable (records present : List Record) : StoredTable :=
  ⟨readerTable, (Columns.keysOf records).map (columnFor records),
    present.map (cellsOf (Columns.keysOf records))⟩

theorem names_recordTable (records present : List Record) :
    (recordTable records present).columns.map Column.name = Columns.keysOf records := by
  rw [recordTable, List.map_map]
  exact List.map_id _

theorem columnsOf_ofRecords (records : List Record) :
    columnsOf (Columns.ofRecords records).schema = (recordTable records []).columns := by
  rw [columnsOf, Columns.schema_ofRecords, List.map_map]
  rfl

theorem append_recordTable (records present : List Record) (record : Record) :
    (recordTable records present).append [cellsOf (Columns.keysOf records) record] =
      recordTable records (present ++ [record]) := by
  simp [recordTable, StoredTable.append]

theorem Regular.columnNames (h : Regular records) (hne : Columns.keysOf records ≠ [])
    (hcount : (Columns.keysOf records).length ≤ Database.columnLimit) :
    ColumnNames (Columns.keysOf records) :=
  ⟨hne, hcount, h.identifiers, h.distinct, Columns.nodup_keysOf records⟩

/-- Some of the keys can be the names of columns as well. -/
theorem Sql.ColumnNames.of_subset {names keys : List String} (h : ColumnNames names)
    (hne : keys ≠ []) (hnodup : keys.Nodup) (hsub : keys ⊆ names) : ColumnNames keys where
  ne_nil := hne
  count := Nat.le_trans (hnodup.subperm hsub).length_le h.count
  identifiers := fun key hk => h.identifiers key (hsub hk)
  distinct := fun a ha b hb => h.distinct a (hsub ha) b (hsub hb)
  nodup := hnodup

variable {σ ρ : Type} {connection : Connection σ} {sight : Sight σ ρ}
  {kept : Affinity → Cell → Cell}

/-- The values of the records read back from columns of their own kind. -/
def ReadBack (kept : Affinity → Cell → Cell) (records : List Record) : Prop :=
  ∀ record ∈ records, ∀ key ∈ Columns.keysOf records, ReadsBack kept (valueAt record key)

instance (records : List Record) : Decidable (ReadBack kept records) :=
  inferInstanceAs (Decidable (∀ record ∈ records, ∀ key ∈ Columns.keysOf records,
    ReadsBack kept (valueAt record key)))

/-- Every cell stays what it is in the column of its key. -/
theorem Regular.kept_eq (h : Regular records) (hread : ReadBack kept records)
    (stores : Stores connection sight kept) {record : Record} (hr : record ∈ records)
    {key : String} (hk : key ∈ Columns.keysOf records) :
    kept (columnFor records key).affinity (Cell.ofJson (valueAt record key)) =
      Cell.ofJson (valueAt record key) := by
  cases hnull : (valueAt record key).isNull with
  | true =>
    rw [Json.isNull_eq_true_iff.1 hnull]
    exact stores.kept_null _
  | false =>
    have hmem : valueAt record key ∈ records.map fun record => valueAt record key :=
      List.mem_map_of_mem hr
    have htag := Columns.tag_eq hmem hnull fun other ho hother => by
      obtain ⟨b, hb, rfl⟩ := List.mem_map.1 ho
      exact h.uniform key hk b hb record hr hother hnull
    rw [columnFor, htag]
    exact hread record hr key hk

theorem executeAll_records (h : Regular records) (hread : ReadBack kept records)
    (stores : Stores connection sight kept) (hnames : ColumnNames (Columns.keysOf records))
    {c : Contents ρ} (hl : c.tables.Lacks readerTable) {rest : List Record}
    (hrest : rest ⊆ records) (present : List Record) {a : σ}
    (hc : sight.contents a = c.topped (recordTable records present)) :
    ∃ a', connection.executeAll (insertions (Columns.keysOf records)
        (rest.map fun record => (Columns.keysOf records).map (valueAt record))) a = (true, a') ∧
      sight.contents a' = c.topped (recordTable records (present ++ rest)) := by
  -- the records that are left are those of the induction, those before them are in the table
  induction rest generalizing present a with
  | nil => exact ⟨a, rfl, by simpa using hc⟩
  | cons record rest ih =>
    obtain ⟨hr, hrest⟩ := List.cons_subset.1 hrest
    obtain ⟨next, hnext, hcontents⟩ := stores.inserts
      (fun key => Cell.ofJson (valueAt record key)) hnames
      (names_recordTable records present) rfl hl hc
    have hstored : ((recordTable records present).columns.map fun column =>
        kept column.affinity (Cell.ofJson (valueAt record column.name))) =
        cellsOf (Columns.keysOf records) record := by
      rw [recordTable, List.map_map]
      exact List.map_congr_left fun key hk => h.kept_eq hread stores hr hk
    rw [hstored, append_recordTable] at hcontents
    have hcells : ((Columns.keysOf records).map (valueAt record)).map Cell.ofJson =
        (Columns.keysOf records).map fun key => Cell.ofJson (valueAt record key) := List.map_map
    obtain ⟨a', ha', hcontents'⟩ := ih hrest (present ++ [record]) hcontents
    refine ⟨a', ?_, by rw [hcontents', List.append_assoc, List.singleton_append]⟩
    rw [insertions, List.map_cons, List.map_cons, hcells,
      Connection.executeAll_cons_of_accepted hnext]
    exact ha'

/-- Where the first removal is accepted, the whole reader is loaded. -/
theorem loadingTexts_records (h : Regular records) (hread : ReadBack kept records)
    (laws : Laws connection sight) (stores : Stores connection sight kept)
    (hnames : ColumnNames (Columns.keysOf records)) {a : σ}
    (hreferenced : (sight.contents a).referenced = false)
    (hoccupied : (sight.contents a).occupied = false)
    (hremoval : (connection.execute removalSql [] a).1 = true) :
    ∃ (a' : σ) (c : Contents ρ),
      connection.executeAll (loadingTexts (Columns.ofRecords records).schema
        (records.map fun record => (Columns.keysOf records).map (valueAt record))) a = (true, a') ∧
      c.referenced = false ∧ c.tables.Lacks readerTable ∧
      sight.contents a' = c.topped (recordTable records records) := by
  cases hstart : connection.execute removalSql [] a with
  | mk accepted start =>
    rw [hstart] at hremoval
    obtain rfl : accepted = true := hremoval
    have hlacks := laws.removed_lacks hstart
    obtain ⟨hunreferenced, hunoccupied, -⟩ := laws.removed_names hreferenced hstart
    have hkeys := Columns.keys_schema_ofRecords records
    obtain ⟨created, hcreated, hcontents⟩ := stores.creates
      (Columns.ofRecords records).schema (hkeys.symm ▸ hnames) hlacks
      (hunoccupied.trans hoccupied)
    rw [columnsOf_ofRecords] at hcontents
    obtain ⟨a', ha', hfilled⟩ := executeAll_records h hread stores hnames hlacks
      (List.Subset.refl records) [] hcontents
    refine ⟨a', _, ?_, hunreferenced, hlacks, hfilled⟩
    rw [loadingTexts, Connection.executeAll_cons_of_accepted hstart, fillingTexts,
      Connection.executeAll_cons_of_accepted hcreated, hkeys, ha']

end Tables

end FluentQuery
