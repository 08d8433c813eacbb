import FluentQuery.Proofs.InsertedRows
import FluentQuery.Proofs.Outcomes
import FluentQuery.Vector.Search

/-!
Rows of records with their embeddings, and the statements that insert them. Main statements: there
is an insertion of records just where the first of them has a column and every text that one of them
has for an index is embedded, and a row has each of its columns once.
-/
namespace FluentQuery

def Row.insertion (table : String) (row : Row) : String :=
  let group := "(" ++ ", ".intercalate ((row.map Prod.snd).map Value.literal) ++ ")"
  "INSERT INTO " ++ table ++ " (" ++ ", ".intercalate (row.map Prod.fst) ++ ") VALUES " ++ group

theorem Insert.sql_values_eq_ok_iff {table sql : String} {row : Row} :
    ((Insert.into table).values row).sql = .ok sql ↔ row ≠ [] ∧ sql = row.insertion table := by
  cases row with
  | nil => simp [Insert.sql, Insert.values]
  | cons entry row =>
    have hsql : ((Insert.into table).values (entry :: row)).sql =
        .ok (Row.insertion table (entry :: row)) := rfl
    rw [hsql, Except.ok.injEq]
    exact ⟨fun h => ⟨List.cons_ne_nil _ _, h.symm⟩, fun h => h.2.symm⟩

theorem Insert.sql_valuesMany_eq_ok_iff {table sql : String} {rows : List Row} :
    ((Insert.into table).valuesMany rows).sql = .ok sql ↔ ∃ first rest, rows = first :: rest ∧
      first ≠ [] ∧ sql = Insert.text table (Assoc.keys first)
        ((first.map Prod.snd :: rest.map (Insert.aligned (Assoc.keys first))).map
          fun cells => cells.map Value.literal) := by
  cases rows with
  | nil => simp [Insert.sql, Insert.valuesMany]
  | cons first rest =>
    have hrows : ((Insert.into table).valuesMany (first :: rest)).rows ≠ [] := List.cons_ne_nil _ _
    constructor
    · intro h
      have htext := Insert.eq_text_of_sql h
      refine ⟨first, rest, rfl, ?_, htext⟩
      rintro rfl
      simp [Insert.sql, Insert.valuesMany] at h
    · rintro ⟨_, _, heq, hfirst, rfl⟩
      cases heq
      have hcolumns : ((Insert.into table).valuesMany (first :: rest)).columns ≠ [] := by
        simpa [Insert.valuesMany] using hfirst
      exact Insert.sql_eq_text hcolumns hrows

namespace Vector

theorem embed_eq_ok_iff {embedder : Embedder} {text : String} {dim : Nat} {vector : List Single} :
    embed embedder text dim = .ok vector ↔
      embedder text dim = .ok vector ∧ vector.length = dim := by
  rw [embed, Outcome.bind_eq_ok_iff]
  constructor
  · rintro ⟨given, hgiven, h⟩
    split at h
    · next hlength =>
      cases h
      exact ⟨hgiven, hlength⟩
    · cases h
  · rintro ⟨hgiven, hlength⟩
    exact ⟨vector, hgiven, if_pos hlength⟩

theorem embed_eq_error_iff {embedder : Embedder} {text : String} {dim : Nat} {e : Error} :
    embed embedder text dim = .error e ↔ embedder text dim = .error e ∨
      ∃ vector, embedder text dim = .ok vector ∧ vector.length ≠ dim ∧
        e = .dimensionMismatch dim vector.length := by
  cases hgiven : embedder text dim with
  | error given => simp [embed, hgiven, bind, Except.bind]
  | ok vector =>
    by_cases hlength : vector.length = dim
    · simp [embed, hgiven, hlength, bind, Except.bind, pure, Except.pure]
    · have hembed : embed embedder text dim = .error (.dimensionMismatch dim vector.length) := by
        rw [embed, hgiven]
        exact if_neg hlength
      simp only [hembed, Except.error.injEq, Except.ok.injEq, reduceCtorEq, false_or,
        exists_eq_left', ne_eq, hlength, not_false_eq_true, true_and]
      exact eq_comm

namespace Model

variable {model : Model} {embedder : Embedder} {record : Record} {index : Index}

theorem isSome_sourceText? {value : Json}
    (hvalue : Assoc.get? index.sourceField record = some value) (hnull : value ≠ .null) :
    (sourceText? index record).isSome = true := by
  rw [sourceText?, hvalue]
  cases value with
  | null => exact absurd rfl hnull
  | _ => rfl

theorem embedding_eq_ok_iff {found : List (String × Value)} :
    embedding embedder record index = .ok found ↔
      (sourceText? index record = none ∧ found = []) ∨
        ∃ text vector, sourceText? index record = some text ∧
          embed embedder text index.dim = .ok vector ∧
          found = [(index.embeddingColumn, Value.ofVector vector)] := by
  unfold embedding
  cases htext : sourceText? index record with
  | none => simp [pure, Except.pure]
  | some text =>
    constructor
    · intro h
      obtain ⟨vector, hvector, hfound⟩ := Outcome.bind_eq_ok_iff.1 h
      cases hfound
      exact .inr ⟨text, vector, rfl, hvector, rfl⟩
    · rintro (⟨h, -⟩ | ⟨given, vector, h, hvector, rfl⟩)
      · cases h
      · cases h
        exact Outcome.bind_eq_ok_iff.2 ⟨vector, hvector, rfl⟩

theorem insertSql_eq_ok_iff : model.insertSql embedder record = .ok sql ↔
    ∃ row, model.embeddedRow embedder record = .ok row ∧ row ≠ [] ∧
      sql = row.insertion model.name := by
  simp only [insertSql, Outcome.bind_eq_ok_iff, Insert.sql_values_eq_ok_iff]

theorem embeddedRow_eq_ok_iff {row : Row} : model.embeddedRow embedder record = .ok row ↔
    ∃ lists, List.Forall₂ (fun index found => embedding embedder record index = .ok found)
        model.indexes lists ∧
      row = lists.flatten.foldl (fun row entry => Assoc.put entry.1 entry.2 row)
        (Row.ofRecord record) := by
  simp only [embeddedRow, embeddings, Outcome.bind_eq_ok_iff, Outcome.mapM_eq_ok_iff]
  constructor
  · rintro ⟨found, ⟨lists, hlists, hfound⟩, hrow⟩
    cases hfound
    cases hrow
    exact ⟨lists, hlists, rfl⟩
  · rintro ⟨lists, hlists, rfl⟩
    exact ⟨_, ⟨lists, hlists, rfl⟩, rfl⟩

theorem nodup_keys_embeddedRow {row : Row} (hrow : model.embeddedRow embedder record = .ok row)
    (h : (Assoc.keys record).Nodup) : (Assoc.keys row).Nodup := by
  obtain ⟨lists, -, rfl⟩ := embeddedRow_eq_ok_iff.1 hrow
  refine Assoc.nodup_keys_foldl_put _ ?_
  rwa [Assoc.keys, Row.ofRecord, List.map_map]

/-- Every text that the record has for an index is embedded. -/
def Embeds (model : Model) (embedder : Embedder) (record : Record) : Prop :=
  ∀ index ∈ model.indexes, ∀ text, sourceText? index record = some text →
    ∃ vector, embed embedder text index.dim = .ok vector

theorem exists_embedding_iff : (∃ found, embedding embedder record index = .ok found) ↔
    ∀ text, sourceText? index record = some text →
      ∃ vector, embed embedder text index.dim = .ok vector := by
  unfold embedding
  cases htext : sourceText? index record with
  | none => simp [pure, Except.pure]
  | some text =>
    simp only [Outcome.bind_eq_ok_iff, Option.some.injEq, forall_eq']
    exact ⟨fun ⟨_, vector, hvector, _⟩ => ⟨vector, hvector⟩,
      fun ⟨vector, hvector⟩ => ⟨_, vector, hvector, rfl⟩⟩

theorem exists_embeddedRow_iff :
    (∃ row, model.embeddedRow embedder record = .ok row) ↔ model.Embeds embedder record := by
  simp only [embeddedRow_eq_ok_iff, Embeds, ← exists_embedding_iff, ← Outcome.exists_mapM_iff,
    Outcome.mapM_eq_ok_iff]
  exact ⟨fun ⟨_, lists, hlists, _⟩ => ⟨lists, hlists⟩,
    fun ⟨lists, hlists⟩ => ⟨_, lists, hlists, rfl⟩⟩

theorem flatten_eq_nil {indexes : List Index} {lists : List (List (String × Value))}
    (h : List.Forall₂ (fun index found => embedding embedder record index = .ok found)
      indexes lists)
    (hnone : ∀ index, sourceText? index record = none) : lists.flatten = [] := by
  induction h with
  | nil => rfl
  | @cons index found indexes lists hfound hrest ih =>
    rw [embedding, hnone index] at hfound
    cases hfound
    exact ih

/-- A record without columns has no text for an index, and a row keeps the columns of its record. -/
theorem embeddedRow_ne_nil_iff {row : Row} (h : model.embeddedRow embedder record = .ok row) :
    row ≠ [] ↔ record ≠ [] := by
  obtain ⟨lists, hlists, rfl⟩ := embeddedRow_eq_ok_iff.1 h
  constructor
  · rintro hrow rfl
    rw [flatten_eq_nil hlists fun _ => rfl] at hrow
    exact hrow rfl
  · intro hrecord
    refine Assoc.foldl_put_ne_nil _ ?_
    simpa [Row.ofRecord] using hrecord

theorem exists_insertSql_iff : (∃ sql, model.insertSql embedder record = .ok sql) ↔
    record ≠ [] ∧ model.Embeds embedder record := by
  rw [← exists_embeddedRow_iff]
  constructor
  · rintro ⟨sql, hsql⟩
    obtain ⟨row, hrow, hne, -⟩ := insertSql_eq_ok_iff.1 hsql
    exact ⟨(embeddedRow_ne_nil_iff hrow).1 hne, row, hrow⟩
  · rintro ⟨hne, row, hrow⟩
    exact ⟨_, insertSql_eq_ok_iff.2 ⟨row, hrow, (embeddedRow_ne_nil_iff hrow).2 hne, rfl⟩⟩

theorem insertManySql_singleton (model : Model) (embedder : Embedder) (record : Record) :
    model.insertManySql embedder [record] = model.insertSql embedder record := by
  rw [insertManySql, insertSql, List.mapM_cons, List.mapM_nil]
  cases model.embeddedRow embedder record <;> rfl

/-- The statement inserts the rows that the records become, in the columns of the first of them. -/
def Inserts (model : Model) (embedder : Embedder) (records : List Record) (sql : String) : Prop :=
  ∃ first rest,
    List.Forall₂ (fun record row => model.embeddedRow embedder record = .ok row) records
      (first :: rest) ∧
    first ≠ [] ∧ sql = Insert.text model.name (Assoc.keys first)
      ((first.map Prod.snd :: rest.map (Insert.aligned (Assoc.keys first))).map
        fun cells => cells.map Value.literal)

theorem insertManySql_eq_ok_iff {records : List Record} :
    model.insertManySql embedder records = .ok sql ↔ model.Inserts embedder records sql := by
  simp only [insertManySql, Outcome.bind_eq_ok_iff, Insert.sql_valuesMany_eq_ok_iff,
    Outcome.mapM_eq_ok_iff]
  constructor
  · rintro ⟨_, hrows, first, rest, rfl, hrest⟩
    exact ⟨first, rest, hrows, hrest⟩
  · rintro ⟨first, rest, hrows, hrest⟩
    exact ⟨_, hrows, first, rest, rfl, hrest⟩

theorem exists_insertManySql_iff {records : List Record} :
    (∃ sql, model.insertManySql embedder records = .ok sql) ↔
      (∃ first, records.head? = some first ∧ first ≠ []) ∧
        ∀ record ∈ records, model.Embeds embedder record := by
  simp only [insertManySql_eq_ok_iff, ← exists_embeddedRow_iff, ← Outcome.exists_mapM_iff,
    Outcome.mapM_eq_ok_iff]
  constructor
  · rintro ⟨sql, first, rest, hrows, hne, -⟩
    refine ⟨?_, _, hrows⟩
    cases hrows with
    | cons hfirst _ => exact ⟨_, rfl, (embeddedRow_ne_nil_iff hfirst).1 hne⟩
  · rintro ⟨⟨first, hfirst, hne⟩, rows, hrows⟩
    cases hrows with
    | nil => cases hfirst
    | cons hrow hrest =>
      cases hfirst
      exact ⟨_, _, _, .cons hrow hrest, (embeddedRow_ne_nil_iff hrow).2 hne, rfl⟩

end Model

end Vector

end FluentQuery
