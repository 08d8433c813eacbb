import FluentQuery.Proofs.FilledTable
import FluentQuery.Proofs.Outcomes
import FluentQuery.Proofs.SessionLaws

/-!
The small database stores rows. Main statement: columns hold of a cell what their affinity says, and
a selection under the name of a reader gives the rows of the table in the order of their insertion.
-/
namespace FluentQuery

namespace Sql

theorem Database.hasRepeated_eq_false {names : List String} (hnodup : names.Nodup)
    (h : DistinctNames names) : hasRepeated names = false := by
  induction names with
  | nil => rfl
  | cons name names ih =>
    obtain ⟨hnew, hnodup⟩ := List.nodup_cons.1 hnodup
    have hrest := ih hnodup fun a ha b hb =>
      h a (List.mem_cons_of_mem _ ha) b (List.mem_cons_of_mem _ hb)
    have hfirst : names.any (sameName name) = false := by
      refine List.any_eq_false.2 fun other ho hsame => hnew ?_
      rwa [h name List.mem_cons_self other (List.mem_cons_of_mem _ ho) hsame]
    rw [hasRepeated, hfirst, hrest]
    rfl

theorem DistinctNames.find?_sameName {names : List String} (h : DistinctNames names) {name : String}
    (hn : name ∈ names) : names.find? (fun other => sameName other name) = some name := by
  have hsome : (names.find? fun other => sameName other name).isSome = true :=
    List.find?_isSome.2 ⟨name, hn, sameName_self name⟩
  obtain ⟨other, hfind⟩ := Option.isSome_iff_exists.1 hsome
  have hsame : sameName other name = true := by simpa using List.find?_some hfind
  rw [hfind, h other (List.mem_of_find?_eq_some hfind) name hn hsame]

namespace StoredTable

variable {names : List String}

theorem cellFor_map (h : DistinctNames names) (value : String → Cell) {column : Column}
    (hc : column.name ∈ names) :
    cellFor names (names.map value) column = (value column.name).stored column.affinity := by
  have hzip : names.zip (names.map value) = names.map fun name => (name, value name) := by
    simpa using @List.zip_map' _ _ _ id value names
  have hfind := h.find?_sameName hc
  rw [cellFor, hzip, List.find?_map, Function.comp_def]
  simp only [hfind, Option.map_some]

theorem rowOf?_map {table : StoredTable} (h : DistinctNames names)
    (hcolumns : table.columns.map Column.name = names) (value : String → Cell) :
    table.rowOf? names (names.map value) =
      some (table.columns.map fun column => (value column.name).stored column.affinity) := by
  have hmem : ∀ column ∈ table.columns, column.name ∈ names := fun column hc =>
    hcolumns ▸ List.mem_map_of_mem hc
  have hnames : names.all (fun name => table.columns.any fun column =>
      sameName name column.name) = true := by
    refine List.all_eq_true.2 fun name hn => ?_
    obtain ⟨column, hc, rfl⟩ := List.mem_map.1 (hcolumns ▸ hn)
    exact List.any_eq_true.2 ⟨column, hc, sameName_self column.name⟩
  rw [rowOf?, if_pos ⟨List.length_map _, hnames⟩]
  exact congrArg some (List.map_congr_left fun column hc => cellFor_map h value (hmem column hc))

theorem inserted?_parameters (table : StoredTable) {values : List Cell}
    (hlength : values.length = names.length) :
    table.inserted? (some names) [(List.range' 0 names.length).map Operand.parameter] values =
      (table.rowOf? names values).map fun row => [row] := by
  have hvalues : (List.range' 0 names.length).map (fun i => values.getD i .null) = values := by
    refine List.ext_getElem (by simp [hlength]) fun i hi hlt => ?_
    simp [hlt]
  have hresolved : (List.range' 0 names.length).mapM (fun i => some (values.getD i .null)) =
      some values := List.mapM_pure.trans (congrArg some hvalues)
  simp only [inserted?, List.mapM_cons, List.mapM_nil, List.mapM_map, Function.comp_def,
    Scope.resolve?, hresolved]
  show (table.rowOf? names values).bind (fun row => some [row]) = _
  rw [Option.map_eq_bind]
  rfl

end StoredTable

section Places

variable {names : List String} {column : String → ScopeColumn} {key : String}

/-- Of distinct names only one is at its place. -/
theorem filterMap_zipIdx (hnodup : names.Nodup) (hk : key ∈ names) {holds : ScopeColumn → Bool}
    (hholds : ∀ name ∈ names, (holds (column name) = true ↔ name = key)) (first : Nat) :
    ((names.map column).zipIdx first).filterMap (fun (c, place) =>
      if holds c then some (place, c) else none) = [(first + names.idxOf key, column key)] := by
  induction names generalizing first with
  | nil => cases hk
  | cons name names ih =>
    obtain ⟨hnew, hnodup⟩ := List.nodup_cons.1 hnodup
    have hothers := fun other ho => hholds other (List.mem_cons_of_mem _ ho)
    rw [List.map_cons, List.zipIdx_cons]
    by_cases hname : name = key
    · subst hname
      have hnone : ((names.map column).zipIdx (first + 1)).filterMap (fun (c, place) =>
          if holds c then some (place, c) else none) = [] := by
        refine List.filterMap_eq_nil_iff.2 fun entry he => ?_
        obtain ⟨other, ho, hc⟩ := List.mem_map.1 (List.fst_mem_of_mem_zipIdx he)
        have hfalse : ¬ holds entry.1 = true := by
          rw [← hc, hothers other ho]
          rintro rfl
          exact hnew ho
        simp [hfalse]
      have hhere := (hholds name List.mem_cons_self).2 rfl
      simp [hhere, hnone]
    · have hk := (List.mem_cons.1 hk).resolve_left (Ne.symm hname)
      have hhere : holds (column name) = false := Bool.eq_false_iff.2 fun h =>
        hname ((hholds name List.mem_cons_self).1 h)
      have hplace : first + 1 + names.idxOf key = first + (names.idxOf key + 1) := by omega
      rw [List.filterMap_cons_none (by simp [hhere]), ih hnodup hk hothers, List.idxOf_cons,
        beq_false_of_ne hname, cond_false, hplace]

theorem getElem?_idxOf (hk : key ∈ names) : names[names.idxOf key]? = some key := by
  have hlt := List.idxOf_lt_length_of_mem hk
  rw [List.getElem?_eq_getElem hlt, List.getElem_idxOf hlt]

theorem getD_idxOf (hk : key ∈ names) (value : String → Cell) :
    (names.map value).getD (names.idxOf key) .null = value key := by
  rw [List.getD_eq_getElem?_getD, List.getElem?_map, getElem?_idxOf hk]
  rfl

end Places

section Query

variable {names keys : List String} {reader : String} {affinity : String → Affinity}

/-- Columns with different names are given by the affinities of their names. -/
theorem exists_affinity {columns : List Column} (h : (columns.map Column.name).Nodup) :
    ∃ affinity : String → Affinity,
      columns = (columns.map Column.name).map fun name => ⟨name, affinity name⟩ := by
  induction columns with
  | nil => exact ⟨fun _ => .untyped, rfl⟩
  | cons column columns ih =>
    rw [List.map_cons, List.nodup_cons] at h
    obtain ⟨affinity, haffinity⟩ := ih h.2
    refine ⟨fun name => if name = column.name then column.affinity else affinity name, ?_⟩
    have hrest : (columns.map Column.name).map (fun name => (⟨name,
        if name = column.name then column.affinity else affinity name⟩ : Column)) = columns := by
      refine (List.map_congr_left fun name hn => ?_).trans haffinity.symm
      have hne : name ≠ column.name := by
        rintro rfl
        exact h.1 hn
      rw [if_neg hne]
    simp only [List.map_cons, if_true, hrest]

def scopeColumn (affinity : String → Affinity) (reader key : String) : ScopeColumn :=
  ⟨reader, true, key, affinity key⟩

def selectedColumn (names : List String) (affinity : String → Affinity) (key : String) :
    Selected :=
  ⟨none, key, some (.column (names.idxOf key) (affinity key))⟩

theorem places_scope (hnames : ColumnNames names) {key : String} (hk : key ∈ names) :
    Scope.places (names.map (scopeColumn affinity reader)) (Scope.isNamed (some reader) key) =
      [(names.idxOf key, scopeColumn affinity reader key)] := by
  have hnamed : ∀ name ∈ names,
      (Scope.isNamed (some reader) key (scopeColumn affinity reader name) = true ↔
        name = key) := by
    intro name hn
    simp only [Scope.isNamed, scopeColumn, Option.all_some, sameName_self, Bool.and_true]
    constructor
    · exact hnames.distinct name hn key hk
    · rintro rfl
      exact sameName_self name
  have hplace := filterMap_zipIdx hnames.nodup hk hnamed 0
  rw [Nat.zero_add] at hplace
  exact hplace

theorem selected?_scope (hnames : ColumnNames names) {key : String} (hk : key ∈ names) :
    Query.selected? (names.map (scopeColumn affinity reader)) []
        (Embedded.selectedItem reader key) = some [selectedColumn names affinity key] := by
  simp only [Query.selected?, Embedded.selectedItem, Scope.resolve?, places_scope hnames hk,
    Option.bind_eq_bind, Option.bind_some, List.getElem?_map, getElem?_idxOf hk, Option.map_some]
  rfl

theorem resolve?_selection (hnames : ColumnNames names) (hsub : keys ⊆ names)
    (tables : List TableUse) :
    Query.resolve? ⟨keys.map (Embedded.selectedItem reader), tables, [], none⟩
        (names.map (scopeColumn affinity reader)) [] =
      some ⟨keys.map (selectedColumn names affinity), [], none⟩ := by
  have hselected : (keys.map (Embedded.selectedItem reader)).mapM
      (Query.selected? (names.map (scopeColumn affinity reader)) []) =
      some (keys.map fun key => [selectedColumn names affinity key]) := by
    rw [List.mapM_map]
    exact Outcome.mapM_eq_some_map fun key hk => selected?_scope hnames (hsub hk)
  have hflatten : (keys.map fun key => [selectedColumn names affinity key]).flatten =
      keys.map (selectedColumn names affinity) := by
    rw [← List.flatMap_def]
    exact List.map_eq_flatMap.symm
  have huniform : Query.uniform (keys.map (selectedColumn names affinity)) = true := by
    simp [Query.uniform, selectedColumn]
  simp only [Query.resolve?, hselected, Option.bind_eq_bind, Option.bind_some, List.mapM_nil,
    Option.pure_def, hflatten, huniform, if_true]

theorem select_selection (rows : List (List Cell)) :
    Resolved.select ⟨keys.map (selectedColumn names affinity), [], none⟩ rows =
      rows.map fun row => keys.map fun key => row.getD (names.idxOf key) .null := by
  have hterms : (keys.map (selectedColumn names affinity)).all (fun item => item.term.isSome) =
      true := by
    simp [selectedColumn]
  simp only [Resolved.select, hterms, if_true, List.map_map]
  rfl

theorem run?_selection (hnames : ColumnNames names) (hsub : keys ⊆ names) {database : Database}
    {table : StoredTable} (hcolumns : table.columns.map Column.name = names)
    (ht : table.name = Embedded.readerTable) (hl : database.Lacks Embedded.readerTable) :
    Query.run? ⟨keys.map (Embedded.selectedItem reader),
        [⟨Embedded.readerTable, some reader⟩], [], none⟩ [] (database.topped table) =
      some ⟨keys, table.rows.map fun row => keys.map fun key =>
        row.getD (names.idxOf key) .null⟩ := by
  have hsame : sameName table.name Embedded.readerTable = true := by simp [ht, sameName]
  have htable : (database.topped table).table? Embedded.readerTable = some (true, table) := by
    rw [Database.table?_topped hl hsame, if_pos (sameName_self _)]
  have hstored : Query.stored? ⟨keys.map (Embedded.selectedItem reader),
      [⟨Embedded.readerTable, some reader⟩], [], none⟩ (database.topped table) =
      some [(reader, true, table)] := by
    simp only [Query.stored?, List.mapM_cons, List.mapM_nil, htable]
    rfl
  obtain ⟨affinity, haffinity⟩ := exists_affinity (hcolumns.symm ▸ hnames.nodup)
  rw [hcolumns] at haffinity
  have hscope : Query.scope [(reader, true, table)] = names.map (scopeColumn affinity reader) := by
    simp only [Query.scope, List.flatMap_singleton, haffinity, List.map_map]
    rfl
  have hkept : table.rows.filter
      (Resolved.keeps ⟨keys.map (selectedColumn names affinity), [], none⟩) = table.rows :=
    List.filter_eq_self.2 fun _ _ => rfl
  have hheadings : (keys.map (selectedColumn names affinity)).map Selected.heading = keys := by
    rw [List.map_map]
    exact List.map_id keys
  simp only [Query.run?, hstored, Option.bind_eq_bind, Option.bind_some, hscope,
    resolve?_selection hnames hsub]
  show some (⟨_, Resolved.select _ (table.rows.filter _)⟩ : Answer) = _
  rw [hkept, select_selection, hheadings]

end Query

end Sql

namespace Sql.Session

open Embedded

theorem plain_of_columnNames {names : List String} (h : ColumnNames names) :
    ∀ name ∈ names, isPlainName name.toList = true :=
  fun name hn => isPlainName_of_identifier (h.identifiers name hn)

theorem execute_creationSql (schema : Schema) (hnames : ColumnNames (Assoc.keys schema))
    {a : Session} (hl : a.database.Lacks readerTable) :
    connection.execute (creationSql schema) [] a =
      (true, { a with database := a.database.topped ⟨readerTable, columnsOf schema, []⟩ }) := by
  have hne : schema ≠ [] := by
    rintro rfl
    exact hnames.ne_nil rfl
  have hcolumns : (columnsOf schema).map Column.name = Assoc.keys schema := by
    rw [columnsOf, List.map_map]
    rfl
  have hcount : ¬ Database.columnLimit < (columnsOf schema).length := by
    have hcount := hnames.count
    rw [Assoc.keys, List.length_map] at hcount
    rw [columnsOf, List.length_map]
    exact Nat.not_lt.2 hcount
  have hrepeated : Database.hasRepeated ((columnsOf schema).map Column.name) = false := by
    rw [hcolumns]
    exact Database.hasRepeated_eq_false hnames.nodup hnames.distinct
  have hinternal : Database.isInternalName readerTable = false := by decide
  have htext := ofText?_creationSql_plain hne fun column hc =>
    plain_of_columnNames hnames column.1 (List.mem_map_of_mem hc)
  simp only [connection, run?, htext, Option.bind_some, Command.run?,
    Database.create_of_lacks hl]
  rw [show (schema.map fun column => (⟨column.1, .ofType (declaredType column.2)⟩ : Column)) =
    columnsOf schema from rfl, hrepeated, hinternal]
  simp [hcount]

/-- Too many columns are refused. -/
theorem execute_creationSql_refused (schema : Schema) (a : Session)
    (hcount : Database.columnLimit < (Assoc.keys schema).length)
    (hidentifiers : ∀ name ∈ Assoc.keys schema, isIdentifier name = true) :
    connection.execute (creationSql schema) [] a = (false, a) := by
  rw [Assoc.keys, List.length_map] at hcount
  have hne : schema ≠ [] := by
    rintro rfl
    cases hcount
  have htext := ofText?_creationSql_plain hne fun column hc =>
    isPlainName_of_identifier (hidentifiers column.1 (List.mem_map_of_mem hc))
  have hrefused : a.database.create true readerTable (columnsOf schema) = none := by
    simp [Database.create, columnsOf, hcount]
  simp only [connection, run?, htext, Option.bind_some, Command.run?]
  rw [show (schema.map fun column => (⟨column.1, .ofType (declaredType column.2)⟩ : Column)) =
    columnsOf schema from rfl, hrefused]
  rfl

theorem execute_insertionSql {names : List String} (hnames : ColumnNames names)
    (value : String → Cell) {a : Session} {database : Database} {table : StoredTable}
    (hcolumns : table.columns.map Column.name = names) (ht : table.name = readerTable)
    (hl : database.Lacks readerTable) (hdatabase : a.database = database.topped table) :
    connection.execute (insertionSql names) (names.map value) a =
      (true, { a with database := database.topped (table.append
        [table.columns.map fun column => (value column.name).stored column.affinity]) }) := by
  have hsame : sameName table.name readerTable = true := by simp [ht, sameName]
  have hinserted := table.inserted?_parameters
    (show (names.map value).length = names.length from List.length_map _)
  rw [StoredTable.rowOf?_map hnames.distinct hcolumns] at hinserted
  simp only [connection, run?, ofText?_insertionSql_plain hnames.ne_nil
    (plain_of_columnNames hnames), Option.bind_some, hdatabase, run?_insert_topped hl hsame,
    hinserted, Option.map_some]

theorem run?_selectionSql {reader : String} {names keys : List String}
    (hreader : isIdentifier reader = true) (hnames : ColumnNames names)
    (hkeys : ColumnNames keys) (hsub : keys ⊆ names) {a : Session} {database : Database}
    {table : StoredTable} (hcolumns : table.columns.map Column.name = names)
    (ht : table.name = readerTable) (hl : database.Lacks readerTable)
    (hdatabase : a.database = database.topped table) :
    a.run? (selectionSql reader keys) [] =
      some (⟨keys, table.rows.map fun row => keys.map fun key =>
        row.getD (names.idxOf key) .null⟩, a.database) := by
  have htext := ofText?_selectionSql hreader hkeys.ne_nil hkeys.identifiers
  have hquery := @run?_selection names keys reader hnames hsub database table hcolumns ht hl
  simp only [run?, htext, Option.bind_some, Command.run?, hdatabase, hquery, Option.map_some]

theorem stores : Stores connection sight Cell.stored where
  kept_null := stored_null
  creates schema hnames hl _ := ⟨_, execute_creationSql schema hnames hl, rfl⟩
  inserts value hnames hcolumns ht hl hc :=
    ⟨_, execute_insertionSql hnames value hcolumns ht hl (congrArg (fun c => c.tables) hc),
      contentsOf_topped hc _⟩
  selects hreader hkeys := selects_of_reads fun command hcommand => by
    rw [ofText?_selectionSql hreader hkeys.ne_nil hkeys.identifiers] at hcommand
    exact ⟨_, (Option.some.inj hcommand).symm⟩
  heads hreader hnames hkeys hsub hcolumns ht hl hc hnew := by
    have hrun := run?_selectionSql hreader hnames hkeys hsub hcolumns ht hl
      (congrArg (fun c => c.tables) hc)
    simp only [connection, headingsFor?, show Assoc.get? _ _ = none from hnew, hrun]
    rfl
  rows hreader hnames hkeys hsub hcolumns ht hl hc := by
    have hrun := run?_selectionSql hreader hnames hkeys hsub hcolumns ht hl
      (congrArg (fun c => c.tables) hc)
    simp only [connection, hrun]

end Sql.Session

end FluentQuery
