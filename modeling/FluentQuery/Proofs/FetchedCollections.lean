import FluentQuery.Plan.Hints
import FluentQuery.Plan.Sql
import FluentQuery.Proofs.Paging
import FluentQuery.Source.Basic

/-!
Plans over the collections of an interface. Main statement: there is one just where the collection
can be fetched, and alias, statement, schema hints and the rows of the attached reader are then those
of the name and the records that were fetched.
-/
namespace FluentQuery

namespace Shelf

theorem slot_add (shelf : Shelf) (reader : Reader) :
    (shelf.add reader).2.slot (shelf.add reader).1 = ⟨reader, false⟩ := by
  simp [add, slot]

theorem schema_add (shelf : Shelf) (reader : Reader) :
    (shelf.add reader).2.schema (shelf.add reader).1 = .ok reader.schema := by
  simp [schema, slot_add]

end Shelf

namespace Plan

/-- A plan that shows all of a reader whose columns have these types. -/
def ofReader (handle : Handle) (types : Schema) : Plan :=
  ⟨.reader (some handle), handle.name, [], [], [], none, false, some types, none⟩

theorem sql_ofReader {handle : Handle} (hname : handle.name ≠ "") (types : Schema) :
    (ofReader handle types).sql =
      "SELECT " ++ handle.name ++ ".* FROM Python(reader) AS " ++ handle.name := by
  have hempty : handle.name.isEmpty = false := by simpa using hname
  have hclauses : (ofReader handle types).clauses =
      ["SELECT " ++ star handle.name, "FROM " ++ aliased Table.readerFunction handle.name] := rfl
  rw [sql, show (ofReader handle types).raw = none from rfl, hclauses]
  apply String.toList_injective
  simp [star, aliased, hempty, Table.readerFunction]

theorem hints_ofReader {handle : Handle} (hname : handle.name ≠ "") (types : Schema)
    (shelf : Shelf) : (ofReader handle types).hints shelf = [(handle.name, .typed types)] := by
  simp [hints, ofReader, sourceHint, hname, Assoc.ofPairs, Assoc.put]

/-- What a plan over a collection makes of its records. They are no more than a memory of words can
hold. -/
structure Carries (plan : Plan) (shelf : Shelf) (name : String) (records : List Record)
    (handle : Handle) (types : Schema) : Prop where
  aliasName : plan.aliasName = name
  sql : plan.sql = "SELECT " ++ name ++ ".* FROM Python(reader) AS " ++ name
  handles : plan.handles = [handle]
  hints : plan.hints shelf = [(name, .typed types)]
  schema : shelf.schema handle = .ok types
  nodup : (Assoc.keys types).Nodup
  columns : ∀ key, key ∈ Assoc.keys types ↔ ∃ record ∈ records, key ∈ Assoc.keys record
  rows : (∃ record ∈ records, record ≠ []) → 2 * records.length ≤ Memory.rowLimit →
    ∀ batch, 0 < batch → batch < Memory.rowLimit →
      shelf.readAll handle (Assoc.keys types) batch =
        (.ok (records.map fun record => (Assoc.keys types).map (valueAt record)), shelf)

end Plan

namespace Source

variable {config : ApiConfig} {fetch : RecordSource} {name : String} {shelf : Shelf}

theorem plan_api (config : ApiConfig) (fetch : RecordSource) (name : String) (shelf : Shelf) :
    (api config (some fetch)).plan name shelf = (fetch config name).map fun records =>
      let reader := Reader.memory (.ofRecords name records)
      (.ofReader (shelf.add reader).1 reader.schema, (shelf.add reader).2) := by
  cases hfetch : fetch config name with
  | error e => simp [plan, table, hfetch, bind, Except.bind, Except.map]
  | ok records =>
    have htypes := shelf.schema_add (.memory (.ofRecords name records))
    simp only [plan, table, hfetch, bind, Except.bind, pure, Except.pure, Except.map,
      Plan.ofSource, Plan.withAlias, Table.isEmpty, Table.handle?, htypes]
    rfl

theorem carries_ofReader (hname : name ≠ "") (records : List Record) (shelf : Shelf) :
    let reader := Reader.memory (.ofRecords name records)
    (Plan.ofReader (shelf.add reader).1 reader.schema).Carries (shelf.add reader).2 name records
      (shelf.add reader).1 reader.schema := by
  intro reader
  have hkeys : Assoc.keys reader.schema = Columns.keysOf records :=
    Columns.keys_schema_ofRecords records
  refine ⟨rfl, Plan.sql_ofReader hname _, rfl, Plan.hints_ofReader hname _ _,
    shelf.schema_add reader, ?_, fun key => ?_, fun hsome hlength batch hbatch hword => ?_⟩
  · rw [hkeys]
    exact Columns.nodup_keysOf records
  · rw [hkeys, Columns.mem_keysOf]
  · obtain ⟨record, hr, hrecord⟩ := hsome
    have hne := Columns.keysOf_ne_nil hr hrecord
    exact Shelf.readAll_ofRecords (shelf.slot_add reader) hlength hne hbatch hword (hkeys ▸ hne)

/-- Plans over a collection with a name. The two ways to one are the same, and they fail just where
the collection cannot be fetched. -/
theorem plan_carries (config : ApiConfig) (fetch : RecordSource) (hname : name ≠ "")
    (shelf : Shelf) :
    let source := api config (some fetch)
    source.collection name shelf = source.plan name shelf ∧
    (∀ e, source.plan name shelf = .error e ↔ fetch config name = .error e) ∧
    ∀ records, fetch config name = .ok records → ∃ plan next handle types,
      source.plan name shelf = .ok (plan, next) ∧ plan.Carries next name records handle types := by
  intro source
  refine ⟨rfl, fun e => ?_, fun records hfetch => ?_⟩
  · rw [plan_api]
    cases fetch config name <;> simp [Except.map]
  · have hplan := plan_api config fetch name shelf
    rw [hfetch] at hplan
    exact ⟨_, _, _, _, hplan, carries_ofReader hname records shelf⟩

/-- A collection of which no key is in all records, with a second reader on the shelf. -/
theorem plan_carries_visits :
    let source := api ⟨"http://localhost", none, []⟩ (some fun _ _ => .ok Memory.visits)
    let shelf := (Shelf.empty.add (.feed "other" [] [])).2
    let types : Schema := [("name", "String"), ("town", "String")]
    "visits" ≠ "" ∧ ∃ plan next, source.plan "visits" shelf = .ok (plan, next) ∧
      plan.sql = "SELECT visits.* FROM Python(reader) AS visits" ∧
      plan.hints next = [("visits", .typed types)] ∧
      ∀ batch, 0 < batch → batch < Memory.rowLimit →
        next.readAll ⟨1, "visits"⟩ ["name", "town"] batch = (.ok [[.str "Ann", .null],
          [.str "Bob", .str "Oslo"], [.null, .str "Lima"]], next) := by
  intro source shelf types
  have hname : "visits" ≠ "" := by decide
  obtain ⟨-, -, hok⟩ := plan_carries ⟨"http://localhost", none, []⟩
    (fun _ _ => .ok Memory.visits) hname shelf
  obtain ⟨plan, next, handle, found, hplan, hcarries⟩ := hok Memory.visits rfl
  have hmade : (Plan.ofReader ⟨1, "visits"⟩ types,
      (shelf.add (.memory (.ofRecords "visits" Memory.visits))).2) = (plan, next) :=
    Except.ok.inj (Eq.trans (by rfl) hplan)
  cases hmade
  have hhandle : [(⟨1, "visits"⟩ : Handle)] = [handle] := hcarries.handles
  have htypes : [("visits", ColumnHint.typed types)] = [("visits", .typed found)] := hcarries.hints
  cases hhandle
  cases htypes
  exact ⟨hname, _, _, hplan, hcarries.sql, hcarries.hints,
    hcarries.rows ⟨_, List.mem_cons_self, by simp⟩ (by decide)⟩

end Source

end FluentQuery
