import FluentQuery.Proofs.EmbeddedRows

/-!
The embeddings that an insertion stores and a search compares. Main statement: a search over an
index compares the column of the index with a vector of the index's dimension, and an insertion
stores there a vector of the dimension of the last index over the same field, so that the two agree
just where these two dimensions do.
-/
namespace FluentQuery

theorem Value.length_eq_of_ofVector {a b : List Single} (h : Value.ofVector a = Value.ofVector b) :
    a.length = b.length := by
  simpa using congrArg List.length (Value.array.inj h)

namespace Vector

theorem embeddingColumn_eq_iff {a b : Index} :
    a.embeddingColumn = b.embeddingColumn ↔ a.sourceField = b.sourceField :=
  String.append_left_inj _

namespace Model

variable {model : Model} {embedder : Embedder} {record : Record} {index : Index}

theorem sourceText?_congr {a b : Index} (h : a.sourceField = b.sourceField) (record : Record) :
    sourceText? a record = sourceText? b record := by
  rw [sourceText?, sourceText?, h]

/-- The index whose embedding stands in the column of a field: the last one over that field. -/
def storedIndex? (indexes : List Index) (field : String) : Option Index :=
  (indexes.filter (·.sourceField = field)).getLast?

theorem storedIndex?_cons (index : Index) (indexes : List Index) (field : String) :
    storedIndex? (index :: indexes) field =
      (storedIndex? indexes field).or (if index.sourceField = field then some index else none) := by
  by_cases h : index.sourceField = field
  · simp [storedIndex?, h, List.getLast?_cons]
  · simp [storedIndex?, h]

theorem sourceField_of_storedIndex? {indexes : List Index} {field : String}
    (h : storedIndex? indexes field = some index) : index.sourceField = field := by
  simpa using (List.mem_filter.1 (List.mem_of_getLast? h)).2

theorem exists_storedIndex? (h : index ∈ model.indexes) :
    ∃ stored, storedIndex? model.indexes index.sourceField = some stored := by
  refine Option.isSome_iff_exists.1 ?_
  rw [storedIndex?, List.getLast?_isSome]
  exact List.ne_nil_of_mem (List.mem_filter.2 ⟨h, by simp⟩)

section Embeddings

variable {indexes : List Index} {lists : List (List (String × Value))}

theorem get?_flatten_cons (column : String) (found : List (String × Value)) :
    Assoc.get? column (found :: lists).flatten.reverse =
      (Assoc.get? column lists.flatten.reverse).or (Assoc.get? column found.reverse) := by
  rw [List.flatten_cons, List.reverse_append, Assoc.get?_append]

theorem get?_embeddings_eq_none
    (h : List.Forall₂ (fun index found => embedding embedder record index = .ok found)
      indexes lists)
    (hnone : storedIndex? indexes index.sourceField = none) :
    Assoc.get? index.embeddingColumn lists.flatten.reverse = none := by
  induction h with
  | nil => rfl
  | @cons other found indexes lists hfound hrest ih =>
    rw [storedIndex?_cons, Option.or_eq_none_iff] at hnone
    have hother : other.embeddingColumn ≠ index.embeddingColumn := fun he => by
      simp [embeddingColumn_eq_iff.1 he] at hnone
    rw [get?_flatten_cons, ih hnone.1]
    rcases embedding_eq_ok_iff.1 hfound with ⟨-, rfl⟩ | ⟨text, vector, -, -, rfl⟩
    · rfl
    · simp [Assoc.get?, hother]

theorem get?_embeddings
    (h : List.Forall₂ (fun index found => embedding embedder record index = .ok found)
      indexes lists)
    {stored : Index} (hstored : storedIndex? indexes stored.sourceField = some stored)
    {text : String} (htext : sourceText? stored record = some text) :
    ∃ vector, embed embedder text stored.dim = .ok vector ∧
      Assoc.get? stored.embeddingColumn lists.flatten.reverse = some (Value.ofVector vector) := by
  induction h with
  | nil => cases hstored
  | @cons index found indexes lists hfound hrest ih =>
    rw [storedIndex?_cons] at hstored
    rw [get?_flatten_cons]
    cases hlater : storedIndex? indexes stored.sourceField with
    | some later =>
      rw [hlater, Option.some_or] at hstored
      obtain ⟨vector, hvector, hget⟩ := ih (hlater.trans hstored)
      exact ⟨vector, hvector, by rw [hget, Option.some_or]⟩
    | none =>
      rw [hlater, Option.none_or] at hstored
      split at hstored
      · cases hstored
        rw [get?_embeddings_eq_none hrest hlater, Option.none_or]
        rcases embedding_eq_ok_iff.1 hfound with ⟨hnone, -⟩ | ⟨given, vector, hgiven, hvector, rfl⟩
        · rw [hnone] at htext
          cases htext
        · rw [hgiven] at htext
          cases htext
          exact ⟨vector, hvector, by simp [Assoc.get?]⟩
      · cases hstored

end Embeddings

variable {sql : String}

/-- What a row stores in the column of an index is the embedding of the last index over its
field. -/
theorem get?_embeddedRow {row : Row} (hrow : model.embeddedRow embedder record = .ok row)
    {stored : Index} (hstored : storedIndex? model.indexes index.sourceField = some stored)
    {text : String} (htext : sourceText? index record = some text) :
    ∃ vector, embed embedder text stored.dim = .ok vector ∧
      Assoc.get? index.embeddingColumn row = some (Value.ofVector vector) := by
  obtain ⟨lists, hlists, rfl⟩ := embeddedRow_eq_ok_iff.1 hrow
  have hfield := sourceField_of_storedIndex? hstored
  rw [← hfield] at hstored
  rw [← sourceText?_congr hfield] at htext
  obtain ⟨vector, hvector, hget⟩ := get?_embeddings hlists hstored htext
  refine ⟨vector, hvector, ?_⟩
  rw [Assoc.get?_foldl_put, ← embeddingColumn_eq_iff.2 hfield, hget, Option.some_or]

/-- The insertion of the record stores a vector of this dimension in the column of the index, if
there is such an insertion. -/
def Stores (model : Model) (embedder : Embedder) (record : Record) (index : Index) (dim : Nat) :
    Prop :=
  ∀ sql, model.insertSql embedder record = .ok sql →
    ∃ row vector, model.embeddedRow embedder record = .ok row ∧ sql = row.insertion model.name ∧
      Assoc.get? index.embeddingColumn row = some (Value.ofVector vector) ∧ vector.length = dim

/-- A search of the model over the index compares the column of the index with a vector of this
dimension, if there is such a search. -/
def Compares (model : Model) (embedder : Embedder) (index : Index) (dim : Nat) : Prop :=
  ∀ (search : Search) (sql : String), search.model = model →
    search.indexName = some index.name → search.sql embedder = .ok sql →
      ∃ (vector : List Single) (rest : String), sql = "SELECT *, " ++ index.distance.name ++ "(" ++
        index.embeddingColumn ++ ", " ++ (Value.ofVector vector).literal ++ rest ∧
          vector.length = dim

theorem compares_dim (hindex : model.index? index.name = some index) :
    model.Compares embedder index index.dim := by
  rintro search sql rfl hname hsql
  rw [Search.sql, hname] at hsql
  cases htext : search.text with
  | none => simp [htext] at hsql
  | some text =>
    simp only [htext, hindex] at hsql
    obtain ⟨vector, hvector, htext⟩ := Outcome.bind_eq_ok_iff.1 hsql
    have hsql := Except.ok.inj htext
    simp only [String.append_assoc] at hsql ⊢
    exact ⟨vector, _, hsql.symm, (embed_eq_ok_iff.1 hvector).2⟩

theorem stores_iff (hsql : model.insertSql embedder record = .ok sql)
    {stored : Index} (hstored : storedIndex? model.indexes index.sourceField = some stored)
    (htext : (sourceText? index record).isSome = true) (dim : Nat) :
    model.Stores embedder record index dim ↔ stored.dim = dim := by
  obtain ⟨text, htext⟩ := Option.isSome_iff_exists.1 htext
  constructor
  · intro h
    obtain ⟨row, vector, hrow, -, hget, hlength⟩ := h sql hsql
    obtain ⟨other, hother, hget'⟩ := get?_embeddedRow hrow hstored htext
    rw [← (embed_eq_ok_iff.1 hother).2, ← hlength]
    exact Value.length_eq_of_ofVector (Option.some.inj (hget'.symm.trans hget))
  · rintro rfl sql hsql
    obtain ⟨row, hrow, -, rfl⟩ := insertSql_eq_ok_iff.1 hsql
    obtain ⟨vector, hvector, hget⟩ := get?_embeddedRow hrow hstored htext
    exact ⟨row, vector, hrow, rfl, hget, (embed_eq_ok_iff.1 hvector).2⟩

/-- For an index that its name finds and a record with a value in its field: what a search over the
index compares has the dimension of the index, what an insertion stores has the dimension of the
last index over that field, and so it has the dimension of this index just where the two have one
dimension. -/
theorem stores_and_compares {value : Json} (hindex : model.index? index.name = some index)
    (hvalue : Assoc.get? index.sourceField record = some value) (hnull : value ≠ .null) :
    ∃ stored, storedIndex? model.indexes index.sourceField = some stored ∧
      model.Stores embedder record index stored.dim ∧
      model.Compares embedder index index.dim ∧
      ∀ sql, model.insertSql embedder record = .ok sql →
        (model.Stores embedder record index index.dim ↔ stored.dim = index.dim) := by
  have htext := isSome_sourceText? hvalue hnull
  obtain ⟨stored, hstored⟩ := exists_storedIndex? (List.mem_of_find?_eq_some hindex)
  refine ⟨stored, hstored, fun sql hsql => ?_, compares_dim hindex, fun sql hsql => ?_⟩
  · exact (stores_iff hsql hstored htext stored.dim).2 rfl sql hsql
  · exact stores_iff hsql hstored htext index.dim

def halves : Embedder := fun _ dim => .ok (List.replicate dim (Binary.ofFraction .single false 1 2))

/-- A record with a text for two indexes of one dimension, and an embedding of its own that gives
way. -/
theorem stores_and_compares_comments :
    let first : Index := ⟨"by_text", "text", 2, .cosine⟩
    let model : Model := ⟨"comments", [], Model.defaultEngine, [],
      [first, ⟨"by_title", "title", 3, .l2⟩, ⟨"again", "text", 2, .l2⟩]⟩
    let record : Record := [("text_embedding", .null), ("text", .str "hi")]
    model.index? first.name = some first ∧
      model.insertSql halves record =
        .ok "INSERT INTO comments (text_embedding, text) VALUES ([0.5,0.5], 'hi')" ∧
      model.Stores halves record first 2 ∧ model.Compares halves first 2 := by
  intro first model record
  have hsql : model.insertSql halves record =
      .ok "INSERT INTO comments (text_embedding, text) VALUES ([0.5,0.5], 'hi')" := by
    decide +kernel
  obtain ⟨stored, hstored, -, hcompares, hiff⟩ := @stores_and_compares model halves record first
    (.str "hi") rfl rfl (by simp)
  cases hstored
  exact ⟨rfl, hsql, (hiff _ hsql).2 rfl, hcompares⟩

/-- Of two indexes over one field with different dimensions the first finds the embedding of the
second in its column. -/
theorem not_stores_of_two_dimensions :
    let first : Index := ⟨"short", "text", 2, .cosine⟩
    let model : Model := ⟨"comments", [⟨"id", .int64, false, false, false, none⟩,
      ⟨"text", .string, false, false, false, none⟩], Model.defaultEngine, [],
      [first, ⟨"long", "text", 3, .cosine⟩]⟩
    let record : Record := [("id", .ofNat 1), ("text", .str "hi")]
    model.index? first.name = some first ∧ Assoc.get? first.sourceField record = some (.str "hi") ∧
      model.insertSql halves record =
        .ok "INSERT INTO comments (id, text, text_embedding) VALUES (1, 'hi', [0.5,0.5,0.5])" ∧
      ¬ model.Stores halves record first first.dim := by
  intro first model record
  have hsql : model.insertSql halves record =
      .ok "INSERT INTO comments (id, text, text_embedding) VALUES (1, 'hi', [0.5,0.5,0.5])" := by
    decide +kernel
  refine ⟨rfl, rfl, hsql, fun h => ?_⟩
  have hdim := (@stores_iff model halves record first _ hsql ⟨"long", "text", 3, .cosine⟩ rfl rfl
    first.dim).1 h
  exact absurd hdim (by decide)

end Model

end Vector

end FluentQuery
