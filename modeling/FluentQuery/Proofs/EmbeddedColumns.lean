import FluentQuery.Proofs.InsertedRows
import FluentQuery.Proofs.StoredEmbeddings

/-!
What embeddings change in a record. Main statement: a row with its embeddings has the columns of the
record and then, each once, those embedding columns that the record needs and lacks; all other
columns keep the values of the record, and only texts of the record itself are embedded. There is no
such row just where one of these texts has no embedding of the right dimension.
-/
namespace FluentQuery

theorem Row.get?_ofRecord (column : String) (record : Record) :
    Assoc.get? column (Row.ofRecord record) = (Assoc.get? column record).map Value.ofJson := by
  induction record with
  | nil => rfl
  | cons entry record ih =>
    by_cases h : entry.1 = column
    · simp [Row.ofRecord, Assoc.get?, h]
    · simpa [Row.ofRecord, Assoc.get?, h] using ih

theorem Row.keys_ofRecord (record : Record) :
    Assoc.keys (Row.ofRecord record) = Assoc.keys record := by
  simp [Assoc.keys, Row.ofRecord]

namespace Vector.Model

variable {model : Model} {embedder other : Embedder} {record : Record} {index : Index}
  {text : String} {row : Row}

/-- The text that a record has for an index: the contents of a string, and the JSON text of any
other value but null. -/
inductive Supplies (record : Record) (index : Index) : String → Prop
  | string {text : String} (h : Assoc.get? index.sourceField record = some (.str text)) :
      Supplies record index text
  | other {value : Json} (h : Assoc.get? index.sourceField record = some value)
      (hnull : value ≠ .null) (hstring : ∀ text, value ≠ .str text) :
      Supplies record index value.text

theorem supplies_iff : Supplies record index text ↔ sourceText? index record = some text := by
  unfold sourceText?
  constructor
  · intro h
    cases h with
    | string h => rw [h]
    | @other value h hnull hstring =>
      rw [h]
      cases value with
      | null => exact absurd rfl hnull
      | str text => exact absurd rfl (hstring text)
      | _ => rfl
  · intro h
    split at h
    · cases h
    · cases h
    · next hget =>
      cases h
      exact .string hget
    · next hnull hstring hget =>
      cases h
      exact .other hget hnull hstring

def hasSource (record : Record) (index : Index) : Bool :=
  (Assoc.get? index.sourceField record).any fun value => !value.isNull

theorem hasSource_iff : hasSource record index = true ↔ ∃ text, Supplies record index text := by
  simp only [supplies_iff, hasSource, sourceText?]
  cases hget : Assoc.get? index.sourceField record with
  | none => simp
  | some value => cases value <;> simp [Json.isNull]

/-- The embedding columns that a record needs, in the order of the indexes. -/
def neededColumns (model : Model) (record : Record) : List String :=
  (model.indexes.filter (hasSource record)).map Index.embeddingColumn

/-- The embedding columns that a record needs and lacks, each where it is first needed. -/
def addedColumns (model : Model) (record : Record) : List String :=
  ((model.neededColumns record).filter (· ∉ Assoc.keys record)).eraseDups

def Fails (embedder : Embedder) (text : String) (dim : Nat) : Prop :=
  (∃ e, embedder text dim = .error e) ∨
    ∃ vector, embedder text dim = .ok vector ∧ vector.length ≠ dim

/-- What a row makes of a record. The last of the indexes over a field has its embedding stored. -/
structure Adds (model : Model) (embedder : Embedder) (record : Record) (row : Row) : Prop where
  nodup : (Assoc.keys row).Nodup
  keys : Assoc.keys row = Assoc.keys record ++ model.addedColumns record
  kept : ∀ column, column ∉ model.neededColumns record →
    Assoc.get? column row = (Assoc.get? column record).map Value.ofJson
  embedded : ∀ index ∈ model.indexes, ∀ text, Supplies record index text →
    ∃ last vector, storedIndex? model.indexes index.sourceField = some last ∧
      embedder text last.dim = .ok vector ∧ vector.length = last.dim ∧
      Assoc.get? index.embeddingColumn row = some (Value.ofVector vector)

theorem keys_embeddings {indexes : List Index} {lists : List (List (String × Value))}
    (h : List.Forall₂ (fun index found => embedding embedder record index = .ok found)
      indexes lists) :
    Assoc.keys lists.flatten = (indexes.filter (hasSource record)).map Index.embeddingColumn := by
  induction h with
  | nil => rfl
  | @cons index found indexes lists hfound hrest ih =>
    have hflatten : Assoc.keys (found :: lists).flatten =
        Assoc.keys found ++ Assoc.keys lists.flatten := by
      simp [Assoc.keys]
    rw [hflatten, ih]
    rcases embedding_eq_ok_iff.1 hfound with ⟨hnone, rfl⟩ | ⟨text, vector, htext, -, rfl⟩
    · have hlacks : ¬ hasSource record index = true := by
        rw [hasSource_iff]
        rintro ⟨text, hsupplies⟩
        rw [supplies_iff.1 hsupplies] at hnone
        cases hnone
      rw [List.filter_cons_of_neg hlacks]
      rfl
    · rw [List.filter_cons_of_pos (hasSource_iff.2 ⟨text, supplies_iff.2 htext⟩)]
      rfl

theorem keys_embeddedRow (h : model.embeddedRow embedder record = .ok row) :
    Assoc.keys row = Assoc.keys record ++ model.addedColumns record := by
  obtain ⟨lists, hlists, rfl⟩ := embeddedRow_eq_ok_iff.1 h
  rw [Assoc.keys_foldl_put, Row.keys_ofRecord, keys_embeddings hlists]
  rfl

theorem get?_embeddedRow_of_not_mem (h : model.embeddedRow embedder record = .ok row)
    {column : String} (hcolumn : column ∉ model.neededColumns record) :
    Assoc.get? column row = (Assoc.get? column record).map Value.ofJson := by
  obtain ⟨lists, hlists, rfl⟩ := embeddedRow_eq_ok_iff.1 h
  have hlacks : column ∉ Assoc.keys lists.flatten.reverse := by
    rw [neededColumns, ← keys_embeddings hlists] at hcolumn
    simpa [Assoc.keys] using hcolumn
  rw [Assoc.get?_foldl_put, Assoc.get?_of_not_mem hlacks, Option.none_or, Row.get?_ofRecord]

theorem adds_embeddedRow (hrecord : (Assoc.keys record).Nodup)
    (h : model.embeddedRow embedder record = .ok row) : Adds model embedder record row where
  nodup := nodup_keys_embeddedRow h hrecord
  keys := keys_embeddedRow h
  kept := fun _ hcolumn => get?_embeddedRow_of_not_mem h hcolumn
  embedded := by
    intro index hindex text htext
    obtain ⟨last, hlast⟩ := exists_storedIndex? hindex
    obtain ⟨vector, hvector, hget⟩ := get?_embeddedRow h hlast (supplies_iff.1 htext)
    obtain ⟨hgiven, hlength⟩ := embed_eq_ok_iff.1 hvector
    exact ⟨last, vector, hlast, hgiven, hlength, hget⟩

theorem embeddedRow_congr (h : ∀ index ∈ model.indexes, ∀ text, Supplies record index text →
      other text index.dim = embedder text index.dim) :
    model.embeddedRow other record = model.embeddedRow embedder record := by
  have hsame : ∀ index ∈ model.indexes,
      embedding other record index = embedding embedder record index := by
    intro index hindex
    unfold embedding
    cases htext : sourceText? index record with
    | none => rfl
    | some text => simp only [embed, h index hindex text (supplies_iff.2 htext)]
  rw [embeddedRow, embeddedRow, embeddings, embeddings, Outcome.mapM_congr hsame]

theorem fails_iff {dim : Nat} :
    Fails embedder text dim ↔ ¬ ∃ vector, embed embedder text dim = .ok vector := by
  rw [← Outcome.exists_error_iff, Fails]
  simp only [embed_eq_error_iff, exists_or]
  refine or_congr_right ⟨?_, ?_⟩
  · rintro ⟨vector, hvector, hlength⟩
    exact ⟨_, vector, hvector, hlength, rfl⟩
  · rintro ⟨_, vector, hvector, hlength, -⟩
    exact ⟨vector, hvector, hlength⟩

theorem embeddedRow_eq_error_iff : (∃ e, model.embeddedRow embedder record = .error e) ↔
    ∃ index ∈ model.indexes, ∃ text, Supplies record index text ∧
      Fails embedder text index.dim := by
  rw [Outcome.exists_error_iff, exists_embeddedRow_iff]
  simp only [Embeds, not_forall, exists_prop, fails_iff, supplies_iff]

theorem insertSql_of_error {e : Error} (h : model.embeddedRow embedder record = .error e) :
    model.insertSql embedder record = .error e := by
  rw [insertSql, h]
  rfl

theorem insertManySql_of_error {records : List Record} (hrecord : record ∈ records) {e : Error}
    (h : model.embeddedRow embedder record = .error e) :
    ∃ e, model.insertManySql embedder records = .error e := by
  have hrow : ¬ ∃ row, model.embeddedRow embedder record = .ok row :=
    Outcome.exists_error_iff.1 ⟨e, h⟩
  rw [Outcome.exists_error_iff, exists_insertManySql_iff]
  exact fun hall => hrow (exists_embeddedRow_iff.2 (hall.2 record hrecord))

/-- What embeddings do to a record, whose keys are distinct as those of every JSON object. -/
theorem embeddedRow_adds (model : Model) (embedder : Embedder)
    (hrecord : (Assoc.keys record).Nodup) :
    (∀ row, model.embeddedRow embedder record = .ok row → Adds model embedder record row) ∧
    (∀ other : Embedder, (∀ index ∈ model.indexes, ∀ text, Supplies record index text →
        other text index.dim = embedder text index.dim) →
      model.embeddedRow other record = model.embeddedRow embedder record) ∧
    ((∃ e, model.embeddedRow embedder record = .error e) ↔
      ∃ index ∈ model.indexes, ∃ text, Supplies record index text ∧
        Fails embedder text index.dim) ∧
    (∀ e, model.embeddedRow embedder record = .error e →
      model.insertSql embedder record = .error e ∧
      ∀ records, record ∈ records → ∃ e, model.insertManySql embedder records = .error e) ∧
    model.insertManySql embedder [record] = model.insertSql embedder record := by
  refine ⟨fun row hrow => adds_embeddedRow hrecord hrow, fun other h => embeddedRow_congr h,
    embeddedRow_eq_error_iff, fun e he => ⟨insertSql_of_error he, ?_⟩,
    insertManySql_singleton model embedder record⟩
  intro records hmem
  exact insertManySql_of_error hmem he

/-- An embedding column that the record has itself and that is the field of another index, two
indexes over one field, a number, and a null. The embedder knows the texts of the record alone. -/
theorem embeddedRow_adds_comments :
    let model : Model := ⟨"comments", [], Model.defaultEngine, [],
      [⟨"by_count", "count", 1, .l2⟩, ⟨"by_text", "text", 2, .cosine⟩, ⟨"again", "text", 1, .l2⟩,
        ⟨"by_title", "title", 4, .cosine⟩, ⟨"by_own", "text_embedding", 1, .cosine⟩]⟩
    let record : Record := [("text_embedding", .str "own"), ("title", .null), ("text", .str "hi"),
      ("count", .ofNat 7)]
    let embedder : Embedder := fun text dim => if text ∈ ["own", "hi", "7"]
      then .ok (List.replicate dim (.finite (.zero _ false))) else .error (.execution text)
    (Assoc.keys record).Nodup ∧ ∃ row, model.embeddedRow embedder record = .ok row ∧
      Adds model embedder record row ∧
      Assoc.keys row = ["text_embedding", "title", "text", "count", "count_embedding",
        "text_embedding_embedding"] ∧
      model.insertManySql embedder [record] = .ok ("INSERT INTO comments (text_embedding, title," ++
        " text, count, count_embedding, text_embedding_embedding) VALUES ([0.0], NULL, 'hi', 7," ++
        " [0.0], [0.0])") := by
  intro model record embedder
  have hrecord : (Assoc.keys record).Nodup := by decide
  obtain ⟨hadds, -, -, -, hmany⟩ := embeddedRow_adds model embedder hrecord
  have hsql : model.insertSql embedder record = .ok ("INSERT INTO comments (text_embedding, title," ++
      " text, count, count_embedding, text_embedding_embedding) VALUES ([0.0], NULL, 'hi', 7," ++
      " [0.0], [0.0])") := by
    decide +kernel
  obtain ⟨row, hrow, -, -⟩ := insertSql_eq_ok_iff.1 hsql
  refine ⟨hrecord, row, hrow, hadds row hrow, ?_, hmany.trans hsql⟩
  rw [(hadds row hrow).keys]
  decide +kernel

end Vector.Model

end FluentQuery
