import Mathlib.Data.List.Nodup
import FluentQuery.Plan.Run
import FluentQuery.Proofs.BareNames
import FluentQuery.Proofs.CompactText
import FluentQuery.Proofs.SessionTables

/-!
A query over a reader gives the records of the reader, over any connection to a database that stores
rows. Main statement: a plan that selects keys of records from a reader that was just put on the shelf
has one line for each record, in their order, with the selected keys in the order of the selection.
-/
namespace FluentQuery

open Sql Embedded

def line (keys : List String) (record : Record) : String :=
  (Json.obj (keys.map fun key => (key, shown (valueAt record key)))).text

theorem jsonLines_eq {keys : List String} (hnodup : keys.Nodup) {records : List Record}
    (hnarrow : ∀ record ∈ records, ∀ key ∈ keys, Narrow (valueAt record key)) :
    ResultTable.jsonLines ⟨keys, (records.map (cellsOf keys)).map fun row => row.map Cell.toJson⟩ =
      String.join (records.map fun record => line keys record ++ "\n") := by
  have hrow : ∀ record ∈ records, ResultTable.rowObject keys
      ((cellsOf keys record).map Cell.toJson) =
      keys.map fun key => (key, shown (valueAt record key)) := by
    intro record hr
    have hcells : (cellsOf keys record).map Cell.toJson =
        keys.map fun key => shown (valueAt record key) := by
      rw [cellsOf, List.map_map]
      exact List.map_congr_left fun key hk => toJson_ofJson (hnarrow record hr key hk)
    have hpairs : keys.zip (keys.map fun key => shown (valueAt record key)) =
        keys.map fun key => (key, shown (valueAt record key)) := by
      simpa using @List.zip_map' _ _ _ id (fun key => shown (valueAt record key)) keys
    have hkeys : Assoc.keys (keys.map fun key => (key, shown (valueAt record key))) = keys := by
      rw [Assoc.keys, List.map_map]
      exact List.map_id keys
    rw [ResultTable.rowObject, hcells, List.length_map, Nat.sub_self, List.replicate_zero,
      List.append_nil, hpairs, Assoc.ofPairs_eq_self (hkeys.symm ▸ hnodup)]
  rw [ResultTable.jsonLines, List.map_map, List.map_map]
  refine congrArg String.join (List.map_congr_left fun record hr => ?_)
  rw [Function.comp_apply, Function.comp_apply, hrow record hr, line]

section Passes

variable {σ ρ : Type} {connection : Connection σ} {sight : Sight σ ρ}
  {kept : Affinity → Cell → Cell} {records : List Record} {keys : List String} {reader : String}

/-- A selection from the loaded table gives the selected cells of the records under the names of the
keys, unless other headings are kept for its text. -/
theorem perform_selectionSql (stores : Stores connection sight kept)
    (hreader : isIdentifier reader = true) (hnames : ColumnNames (Columns.keysOf records))
    (hkeys : ColumnNames keys) (hsub : keys ⊆ Columns.keysOf records) {c : Contents ρ}
    (hl : c.tables.Lacks readerTable) {a : σ}
    (hc : sight.contents a = c.topped (recordTable records records))
    (hheadings : ∀ headings,
      sight.headings a (selectionSql reader keys) = some headings → headings = keys) :
    (connection.perform (selectionSql reader keys) a).1 =
      .ok ⟨keys, (records.map (cellsOf keys)).map fun row => row.map Cell.toJson⟩ := by
  have hselects := stores.selects hreader hkeys
  have hcolumns := names_recordTable records records
  have hprepare : (connection.prepare (selectionSql reader keys) a).1 = some keys := by
    cases hnew : sight.headings a (selectionSql reader keys) with
    | none => exact stores.heads hreader hnames hkeys hsub hcolumns rfl hl hc hnew
    | some headings => rw [hselects.prepare_known hnew, hheadings headings hnew]
  have hrows := stores.rows hreader hnames hkeys hsub hcolumns rfl hl
    ((hselects.contents_prepare a).trans hc)
  have hcells : ((recordTable records records).rows.map fun row => keys.map fun key =>
      row.getD ((Columns.keysOf records).idxOf key) .null) = records.map (cellsOf keys) := by
    rw [recordTable, List.map_map]
    refine List.map_congr_left fun record _ => ?_
    exact List.map_congr_left fun key hk => getD_idxOf (hsub hk) _
  rw [hcells] at hrows
  rw [Connection.fst_perform, hprepare, hrows]

/-- The whole pass over the records: the table is made and filled, the selection runs, and the table
is removed. -/
theorem pass_records (laws : Laws connection sight) (stores : Stores connection sight kept)
    (h : Regular records) (hread : ReadBack kept records)
    (hnames : ColumnNames (Columns.keysOf records)) (hreader : isIdentifier reader = true)
    (hkeys : ColumnNames keys) (hsub : keys ⊆ Columns.keysOf records) {a : σ}
    (hreferenced : (sight.contents a).referenced = false)
    (hoccupied : (sight.contents a).occupied = false)
    (hremoval : (connection.execute removalSql [] a).1 = true)
    (hheadings : ∀ headings,
      sight.headings a (selectionSql reader keys) = some headings → headings = keys) :
    (connection.pass (Columns.ofRecords records).schema
        (records.map fun record => (Columns.keysOf records).map (valueAt record))
        (selectionSql reader keys) a).1 =
      .ok ⟨keys, (records.map (cellsOf keys)).map fun row => row.map Cell.toJson⟩ := by
  obtain ⟨a', c, hload, hunreferenced, hl, hc⟩ :=
    loadingTexts_records h hread laws stores hnames hreferenced hoccupied hremoval
  have hperform := perform_selectionSql stores hreader hnames hkeys hsub hl hc fun headings hh =>
    hheadings headings (laws.headings_executeAll (fun _ ht => own_of_mem_loadingTexts ht) hload hh)
  have hperformed := ((stores.selects hreader hkeys).contents_perform a').trans hc
  cases hlast : connection.execute removalSql []
      (connection.perform (selectionSql reader keys) a').2 with
  | mk removed last =>
    have htop : ¬ (sight.contents
        (connection.perform (selectionSql reader keys) a').2).tables.Lacks readerTable := by
      rw [hperformed]
      exact Contents.not_lacks_topped hl rfl
    obtain rfl := laws.removal_of_top (by rw [hperformed]; exact hunreferenced) htop hlast
    simp only [Connection.pass, hload, hperform, hlast, if_true]

end Passes

namespace Executor

variable {σ ρ : Type} {connection : Connection σ} {sight : Sight σ ρ}
  {kept : Affinity → Cell → Cell} {name : String} {records : List Record} {keys : List String}
  {executor : Executor σ} {shelf : Shelf} {handle : Handle}

theorem loads_records (connection : Connection σ) (hlength : 2 * records.length ≤ Memory.rowLimit)
    (hne : Columns.keysOf records ≠ []) {batch : Nat} (hbatch : 0 < batch)
    (hword : batch < Memory.rowLimit)
    (hslot : shelf.slot handle = ⟨.memory (.ofRecords name records), false⟩) :
    Loads connection handle shelf batch (.ok ((Columns.ofRecords records).schema,
      records.map fun record => (Columns.keysOf records).map (valueAt record))) := by
  have hschema : shelf.schema handle = .ok (Columns.ofRecords records).schema := by
    simp [Shelf.schema, hslot, Reader.schema, Memory.ofRecords]
  refine loads_of_readAll hschema (by simpa [Columns.schema_ofRecords] using hne) ?_
  rw [Columns.keys_schema_ofRecords]
  exact Shelf.readAll_ofRecords hslot hlength hne hbatch hword hne

/-- The engine gets the statement of a selection and runs it over the connection, redirected. -/
theorem execute_selectionPlan (hlength : 2 * records.length ≤ Memory.rowLimit) (hne : keys ≠ [])
    (hidentifiers : ∀ key ∈ keys, isIdentifier key = true)
    (hcolumns : Columns.keysOf records ≠ []) (hbatch : 0 < executor.batch)
    (hword : executor.batch < Memory.rowLimit) (hname : isIdentifier handle.name = true)
    (hslot : shelf.slot handle = ⟨.memory (.ofRecords handle.name records), false⟩) :
    ((selectionPlan handle keys).execute (engine connection) .jsonEachRow (executor, shelf)).1 =
      (connection.pass (Columns.ofRecords records).schema
        (records.map fun record => (Columns.keysOf records).map (valueAt record))
        (selectionSql handle.name keys) executor.state).1.bind
          fun answer => answer.render .jsonEachRow := by
  have hstatement : (selectionPlan handle keys).statement .jsonEachRow =
      .ok ⟨(selectionPlan handle keys).sql, .jsonEachRow, some handle⟩ := rfl
  have hredirect := redirect?_selectionPlan (isPlainName_of_identifier hname) hne
    fun key hk => isPlainName_of_identifier (hidentifiers key hk)
  have hengine := @engine_redirected _ ⟨(selectionPlan handle keys).sql, .jsonEachRow, some handle⟩ _
    handle connection rfl rfl hredirect executor shelf
  have hloads := loads_records connection hlength hcolumns hbatch hword hslot
  rw [Plan.execute, hstatement]
  dsimp only
  rw [hengine, show executor.performWith connection _ handle shelf = _ from
    performWith_of_ok hloads _ executor.state]

/-- A plan over a reader on records that was just put on the shelf, which selects some of their
keys, gives one line for each record. The size of the batches is a word, the records are no more
than a memory of words can hold, their keys no more than a table can have columns, and if the
statement was run before, its headings were the keys. -/
theorem execute_select_records (laws : Laws connection sight)
    (stores : Stores connection sight kept) (hname : isIdentifier name = true)
    (h : Regular records) (hread : ReadBack kept records)
    (hcount : (Columns.keysOf records).length ≤ Database.columnLimit)
    (hlength : 2 * records.length ≤ Memory.rowLimit) (hne : keys ≠ []) (hnodup : keys.Nodup)
    (hkeys : ∀ key ∈ keys, ∃ record ∈ records, key ∈ Assoc.keys record)
    (hbatch : 0 < executor.batch) (hword : executor.batch < Memory.rowLimit)
    (hreferenced : (sight.contents executor.state).referenced = false)
    (hoccupied : (sight.contents executor.state).occupied = false)
    (hremoval : (connection.execute removalSql [] executor.state).1 = true)
    (hheadings : ∀ headings, sight.headings executor.state (selectionSql name keys) =
      some headings → headings = keys) (shelf : Shelf) :
    ∃ plan, Plan.ofSource (.reader (some (shelf.add (.memory (.ofRecords name records))).1)) =
        .ok plan ∧
      ((plan.select (FieldList.ofList keys)).execute (engine connection) .jsonEachRow
          (executor, (shelf.add (.memory (.ofRecords name records))).2)).1 =
        .ok (String.join (records.map fun record => line keys record ++ "\n")) ∧
      ∀ record ∈ records, '\n' ∉ (line keys record).toList := by
  have hsub : keys ⊆ Columns.keysOf records := fun key hk => Columns.mem_keysOf.2 (hkeys key hk)
  obtain ⟨key, hk⟩ := List.exists_mem_of_ne_nil keys hne
  have hcolumns : Columns.keysOf records ≠ [] := List.ne_nil_of_mem (hsub hk)
  have hnames := h.columnNames hcolumns hcount
  have hselected := hnames.of_subset hne hnodup hsub
  have hfields : FieldList.ofList keys = keys := ofList_of_plain fun key hk =>
    isPlainName_of_identifier (h.identifiers key (hsub hk))
  have hslot : (shelf.add (.memory (.ofRecords name records))).2.slot
      (shelf.add (.memory (.ofRecords name records))).1 =
      ⟨.memory (.ofRecords name records), false⟩ := by
    simp [Shelf.add, Shelf.slot]
  refine ⟨_, rfl, ?_, fun record _ => Json.not_mem_text _⟩
  rw [hfields]
  have hpass := pass_records laws stores h hread hnames hname hselected hsub hreferenced
    hoccupied hremoval hheadings
  have hexecute := @execute_selectionPlan _ connection records keys executor _
    (shelf.add (.memory (.ofRecords name records))).1 hlength hne hselected.identifiers hcolumns
    hbatch hword hname hslot
  refine hexecute.trans ?_
  rw [show selectionSql (shelf.add (.memory (.ofRecords name records))).1.name keys =
    selectionSql name keys from rfl, hpass]
  show Except.ok (ResultTable.jsonLines _) = _
  rw [jsonLines_eq hnodup fun record hr key hk => h.narrow record hr key (hsub hk)]

/-- Three records with a truth value, an array, a fraction and missing keys, drained one by one. -/
theorem execute_select_records_notes :
    let records : List Record := [
      [("id", .ofInt64 2), ("ok", .bool true), ("tags", .arr [.str "a", .ofInt64 1])],
      [("ok", .null), ("score", .float ⟨false, 1023 * Nat.pow 2 52 + Nat.pow 2 51, by decide⟩),
        ("id", .ofInt64 (-7))],
      []]
    let added := Shelf.empty.add (.memory (.ofRecords "notes" records))
    ∃ plan, Plan.ofSource (.reader (some added.1)) = .ok plan ∧
      ((plan.select (FieldList.ofList ["tags", "ok", "id", "score"])).execute
          (engine Session.connection) .jsonEachRow (Embedded.empty.withBatch 1, added.2)).1 =
        .ok ("\x7b\"tags\":\"[\\\"a\\\",1]\",\"ok\":1,\"id\":2,\"score\":null\x7d\n" ++
          "\x7b\"tags\":null,\"ok\":null,\"id\":-7,\"score\":1.5\x7d\n" ++
          "\x7b\"tags\":null,\"ok\":null,\"id\":null,\"score\":null\x7d\n") := by
  intro records added
  have h : Regular records := by decide +kernel
  have hread : ReadBack Cell.stored records := by decide +kernel
  have hkeys : ∀ key ∈ ["tags", "ok", "id", "score"],
      ∃ record ∈ records, key ∈ Assoc.keys record := by decide +kernel
  obtain ⟨plan, hplan, hanswer, -⟩ := @execute_select_records _ _ Session.connection Session.sight
    Cell.stored "notes" records ["tags", "ok", "id", "score"] (Embedded.empty.withBatch 1)
    Session.laws Session.stores (by decide) h hread (by decide +kernel) (by decide)
    (List.cons_ne_nil _ _) (by decide) hkeys (by decide) (by decide) rfl rfl
    (by rw [Session.execute_removalSql])
    (by simp [Session.sight, Executor.withBatch, Embedded.empty, Assoc.get?]) Shelf.empty
  exact ⟨plan, hplan, hanswer.trans (congrArg Except.ok (by decide +kernel))⟩

/-! A statement that was run before keeps its headings. -/

example :
    let first := Shelf.empty.add (.memory (.ofRecords "users" [[("ID", .ofNat 1)]]))
    let second := first.2.add (.memory (.ofRecords "users" [[("id", .ofNat 1)]]))
    let run := fun handle => engine Session.connection
      ⟨"SELECT users.id FROM Python(reader) AS users", .jsonEachRow, some handle⟩
    (run second.1 (run first.1 (Embedded.empty, second.2)).2).1 = .ok "\x7b\"ID\":1\x7d\n" := by
  decide +kernel

/-! More keys than a table can have columns. -/

/-- The table is refused, and with it every selection. -/
theorem execute_select_refused (hname : isIdentifier name = true) (h : Regular records)
    (hcount : Database.columnLimit < (Columns.keysOf records).length)
    (hlength : 2 * records.length ≤ Memory.rowLimit) (hne : keys ≠ [])
    (hkeys : ∀ key ∈ keys, ∃ record ∈ records, key ∈ Assoc.keys record) {executor : Embedded}
    (hbatch : 0 < executor.batch) (hword : executor.batch < Memory.rowLimit) (shelf : Shelf) :
    ∃ plan, Plan.ofSource (.reader (some (shelf.add (.memory (.ofRecords name records))).1)) =
        .ok plan ∧
      ((plan.select (FieldList.ofList keys)).execute Embedded.engine .jsonEachRow
          (executor, (shelf.add (.memory (.ofRecords name records))).2)).1 = .error .database := by
  have hsub : keys ⊆ Columns.keysOf records := fun key hk => Columns.mem_keysOf.2 (hkeys key hk)
  obtain ⟨key, hk⟩ := List.exists_mem_of_ne_nil keys hne
  have hfields : FieldList.ofList keys = keys := ofList_of_plain fun key hk =>
    isPlainName_of_identifier (h.identifiers key (hsub hk))
  have hslot : (shelf.add (.memory (.ofRecords name records))).2.slot
      (shelf.add (.memory (.ofRecords name records))).1 =
      ⟨.memory (.ofRecords name records), false⟩ := by
    simp [Shelf.add, Shelf.slot]
  refine ⟨_, rfl, ?_⟩
  rw [hfields]
  have hexecute := @execute_selectionPlan _ Session.connection records keys executor _
    (shelf.add (.memory (.ofRecords name records))).1 hlength hne
    (fun key hk => h.identifiers key (hsub hk)) (List.ne_nil_of_mem (hsub hk)) hbatch hword hname
    hslot
  have hcreation := Session.execute_creationSql_refused (Columns.ofRecords records).schema
    { executor.state with database := executor.state.database.drop readerTable }
    (by rw [Columns.keys_schema_ofRecords]; exact hcount)
    (by rw [Columns.keys_schema_ofRecords]; exact h.identifiers)
  refine hexecute.trans ?_
  simp only [Connection.pass, loadingTexts, fillingTexts,
    Connection.executeAll_cons_of_accepted (Session.execute_removalSql _),
    Connection.executeAll_cons_of_refused hcreation]
  rfl

section Wide

def wideKey (n : Nat) : String := "k" ++ naturalText n

def wideRecord (n : Nat) : Record := ((List.range n).map wideKey).map fun key => (key, .ofNat 1)

theorem toList_wideKey (n : Nat) : (wideKey n).toList = 'k' :: Nat.toDigits 10 n := by
  simp [wideKey, naturalText]

theorem wideKey_injective {m n : Nat} (h : wideKey m = wideKey n) : m = n :=
  naturalText_injective ((String.append_right_inj "k").1 h)

theorem isDigit_of_mem_wideKey {n : Nat} {c : Char} (h : c ∈ Nat.toDigits 10 n) :
    c.isDigit = true := Nat.isDigit_of_mem_toDigits (by decide) (by decide) h

theorem lowered_wideKey (n : Nat) : Text.lowered (wideKey n) = wideKey n := by
  rw [← String.toList_inj, Text.lowered, String.toList_ofList, toList_wideKey, List.map_cons]
  refine congrArg ('k' :: ·) ((List.map_congr_left fun c hc => ?_).trans (List.map_id _))
  have hdigit := isDigit_of_mem_wideKey hc
  simp only [Char.isDigit, Bool.and_eq_true, decide_eq_true_eq] at hdigit
  have hlow : ¬ (c.val ≥ 'A'.val ∧ c.val ≤ 'Z'.val) := fun hupper =>
    absurd (UInt32.le_trans hupper.1 hdigit.2) (by decide)
  unfold Char.toLower
  rw [dif_neg hlow]
  rfl

theorem isIdentifier_wideKey (n : Nat) : isIdentifier (wideKey n) = true := by
  have hwords : ∀ word ∈ reservedWords ++ leadingWords, word.toList.head? ≠ some 'k' := by
    decide +kernel
  have hplain : isPlainName (wideKey n).toList = true := by
    rw [toList_wideKey, isPlainName, Bool.and_eq_true, List.all_eq_true]
    refine ⟨by decide, fun c hc => ?_⟩
    simp [Char.isAlphanum, isDigit_of_mem_wideKey hc]
  have hfree : wideKey n ∉ reservedWords ++ leadingWords := fun hmem =>
    hwords _ hmem (by rw [toList_wideKey]; rfl)
  rw [isIdentifier, lowered_wideKey, hplain]
  simpa using hfree

theorem mem_keysOf_wideRecord {n : Nat} {key : String} :
    key ∈ Columns.keysOf [wideRecord n] ↔ ∃ i < n, wideKey i = key := by
  simp [Columns.mem_keysOf, wideRecord, Assoc.keys]

theorem length_keysOf_wideRecord (n : Nat) : n ≤ (Columns.keysOf [wideRecord n]).length := by
  have hnodup : ((List.range n).map wideKey).Nodup :=
    List.nodup_range.map_on fun _ _ _ _ => wideKey_injective
  have hsub : (List.range n).map wideKey ⊆ Columns.keysOf [wideRecord n] := by
    intro key hk
    obtain ⟨i, hi, rfl⟩ := List.mem_map.1 hk
    exact mem_keysOf_wideRecord.2 ⟨i, List.mem_range.1 hi, rfl⟩
  simpa using (hnodup.subperm hsub).length_le

theorem valueAt_wideRecord {n : Nat} {key : String} (h : key ∈ Columns.keysOf [wideRecord n]) :
    valueAt (wideRecord n) key = .ofNat 1 := by
  obtain ⟨i, hi, rfl⟩ := mem_keysOf_wideRecord.1 h
  rw [valueAt, wideRecord, Assoc.get?_map (List.mem_map_of_mem (List.mem_range.2 hi))]
  rfl

theorem regular_wideRecord (n : Nat) : Regular [wideRecord n] where
  identifiers key hk := by
    obtain ⟨i, -, rfl⟩ := mem_keysOf_wideRecord.1 hk
    exact isIdentifier_wideKey i
  distinct a ha b hb hsame := by
    obtain ⟨i, -, rfl⟩ := mem_keysOf_wideRecord.1 ha
    obtain ⟨j, -, rfl⟩ := mem_keysOf_wideRecord.1 hb
    simpa [sameName, lowered_wideKey] using hsame
  uniform key _ a ha b hb _ _ := by rw [List.mem_singleton.1 ha, List.mem_singleton.1 hb]
  narrow record hr key hk := by
    rw [List.mem_singleton.1 hr, valueAt_wideRecord hk]
    decide

theorem readBack_wideRecord (n : Nat) : ReadBack Cell.stored [wideRecord n] := by
  intro record hr key hk
  rw [List.mem_singleton.1 hr, valueAt_wideRecord hk]
  decide +kernel

/-- One record with a key more than a table can have columns, each of which is an identifier and has
an integer. -/
theorem select_wideRecord_refused :
    let records := [wideRecord 2001]
    let added := Shelf.empty.add (.memory (.ofRecords "wide" records))
    Regular records ∧ ReadBack Cell.stored records ∧
      ∃ plan, Plan.ofSource (.reader (some added.1)) = .ok plan ∧
        ((plan.select (FieldList.ofList [wideKey 0])).execute Embedded.engine .jsonEachRow
          (Embedded.empty, added.2)).1 = .error .database := by
  intro records added
  have hcount := length_keysOf_wideRecord 2001
  refine ⟨regular_wideRecord 2001, readBack_wideRecord 2001, ?_⟩
  exact execute_select_refused (by decide) (regular_wideRecord 2001) (Nat.lt_of_succ_le hcount)
    (by decide) (List.cons_ne_nil _ _) (fun key hk => Columns.mem_keysOf.1
      (mem_keysOf_wideRecord.2 ⟨0, by decide, (List.mem_singleton.1 hk).symm⟩))
    (by decide) (by decide) Shelf.empty

end Wide

end Executor

end FluentQuery
