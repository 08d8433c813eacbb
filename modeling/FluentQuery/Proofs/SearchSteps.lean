import FluentQuery.Proofs.Calls
import FluentQuery.Proofs.EmbeddedRows

/-!
Runs of the steps that build a search. A filter whose key cannot be read leaves the search as it
was. Main statement: runs that have the same last index, the same last text, the same last limit and
the same conditions in order give the same answer, which is a statement just where the index and the
text are there and the embedder answers with a vector of the index's dimension.
-/
namespace FluentQuery

def Condition.text (condition : Condition) : String :=
  condition.field ++ " " ++ condition.operator.text ++ " " ++ condition.value.literal

namespace Vector

namespace Model

variable {model : Model} {name : String} {index : Index}

/-- The index is the first of the model with this name. -/
def FirstNamed (model : Model) (name : String) (index : Index) : Prop :=
  ∃ before after, model.indexes = before ++ index :: after ∧ index.name = name ∧
    ∀ other ∈ before, other.name ≠ name

theorem index?_eq_some_iff : model.index? name = some index ↔ model.FirstNamed name index := by
  rw [index?, List.find?_eq_some_iff_append]
  simp only [decide_eq_true_eq, Bool.not_eq_true', decide_eq_false_iff_not]
  constructor
  · rintro ⟨hname, before, after, hindexes, hbefore⟩
    exact ⟨before, after, hindexes, hname, hbefore⟩
  · rintro ⟨before, after, hindexes, hname, hbefore⟩
    exact ⟨hname, before, after, hindexes, hbefore⟩

theorem index?_eq_none_iff :
    model.index? name = none ↔ ∀ index ∈ model.indexes, index.name ≠ name := by
  simp [index?, List.find?_eq_none]

end Model

namespace Search

def condition? (key : String) (value : Value) : Option Condition :=
  match splitKey key with
  | .ok (field, operator) => some ⟨field, operator, value⟩
  | .error _ => none

theorem filter_cases (search : Search) (key : String) (value : Value) :
    (condition? key value = none ∧ ∃ e, search.filter key value = .error e) ∨
      ∃ condition, condition? key value = some condition ∧ search.filter key value =
        .ok { search with filters := search.filters ++ [condition.text] } := by
  unfold condition? filter
  cases splitKey key with
  | error e => exact .inl ⟨rfl, e, rfl⟩
  | ok parts => exact .inr ⟨_, rfl, rfl⟩

inductive Step where
  | usingIndex (name : String)
  | forText (text : String)
  | filter (key : String) (value : Value)
  | take (n : Nat)
deriving Repr

namespace Step

@[simp] def indexName? : Step → Option String
  | usingIndex name => some name
  | _ => none

@[simp] def text? : Step → Option String
  | forText text => some text
  | _ => none

@[simp] def limit? : Step → Option Nat
  | take n => some n
  | _ => none

@[simp] def condition? : Step → Option Condition
  | filter key value => Search.condition? key value
  | _ => none

end Step

def step (search : Search) : Step → Except Error Search
  | .usingIndex name => .ok (search.usingIndex name)
  | .forText text => .ok (search.forText text)
  | .filter key value => search.filter key value
  | .take n => .ok (search.take n)

/-- The search after steps. One that fails leaves the search as it was. -/
def after (search : Search) : List Step → Search
  | [] => search
  | s :: steps => match search.step s with
    | .ok next => next.after steps
    | .error _ => search.after steps

def last? {α : Type} (kind? : Step → Option α) (steps : List Step) : Option α :=
  (steps.filterMap kind?).getLast?

def conditions (steps : List Step) : List Condition := steps.filterMap Step.condition?

theorem step_cases (search : Search) (s : Step) :
    (∃ key value e, s = .filter key value ∧ condition? key value = none ∧
      search.step s = .error e) ∨
    search.step s = .ok { search with
      filters := search.filters ++ s.condition?.toList.map Condition.text
      limit := s.limit?.or search.limit
      indexName := s.indexName?.or search.indexName
      text := s.text?.or search.text } := by
  cases s with
  | filter key value =>
    rcases search.filter_cases key value with ⟨hnone, e, he⟩ | ⟨condition, hcondition, hok⟩
    · exact .inl ⟨key, value, e, rfl, hnone, he⟩
    · exact .inr (by simpa [hcondition, step] using hok)
  | _ => exact .inr (by simp [step, usingIndex, forText, take])

/-- A run as one change: the last of each kind that replaces, and every condition. -/
theorem after_eq (search : Search) (steps : List Step) :
    search.after steps = { search with
      filters := search.filters ++ (conditions steps).map Condition.text
      limit := (last? Step.limit? steps).or search.limit
      indexName := (last? Step.indexName? steps).or search.indexName
      text := (last? Step.text? steps).or search.text } := by
  unfold conditions last?
  induction steps generalizing search with
  | nil => simp [after]
  | cons s steps ih =>
    rcases search.step_cases s with ⟨key, value, e, rfl, hnone, he⟩ | hok
    · simp only [after, he, ih]
      simp [List.filterMap_cons, hnone]
    · simp only [after, hok, ih]
      cases s with
      | filter key value => cases h : condition? key value <;> simp [List.filterMap_cons, h]
      | _ => simp [List.filterMap_cons, List.getLast?_cons]

theorem after_ofModel (model : Model) (steps : List Step) :
    (ofModel model).after steps = ⟨model, (conditions steps).map Condition.text,
      last? Step.limit? steps, last? Step.indexName? steps, last? Step.text? steps⟩ := by
  simp [after_eq, ofModel]

/-- Two runs that have the same conditions in order, the same last index, the same last text and the
same last limit. -/
structure Agree (steps steps' : List Step) : Prop where
  conditions : conditions steps = conditions steps'
  indexName : last? Step.indexName? steps = last? Step.indexName? steps'
  text : last? Step.text? steps = last? Step.text? steps'
  limit : last? Step.limit? steps = last? Step.limit? steps'

/-- The steps ask for a text over an index of the model, the first of its name. -/
structure Asks (model : Model) (steps : List Step) (index : Index) (text : String) : Prop where
  indexName : last? Step.indexName? steps = some index.name
  index : model.FirstNamed index.name index
  text : last? Step.text? steps = some text

/-- The statement of a search. Without conditions it has one that always holds, and it has a last
clause only for a limit. -/
def statement (model : Model) (index : Index) (vector : List Single) (conditions : List Condition)
    (limit : Option Nat) : String :=
  "SELECT *, " ++ index.distance.name ++ "(" ++ index.embeddingColumn ++ ", " ++
    (Value.ofVector vector).literal ++ ") AS " ++ scoreColumn ++ " FROM " ++ model.name ++
    " WHERE " ++
    (if conditions = [] then "1=1" else " AND ".intercalate (conditions.map Condition.text)) ++
    " ORDER BY " ++ scoreColumn ++ " ASC" ++ limit.elim "" fun n => " LIMIT " ++ naturalText n

/-- The reasons for which steps give no statement, the embedder's own aside. -/
inductive Refuses (model : Model) (embedder : Embedder) (steps : List Step) : Error → Prop
  | noIndex (h : last? Step.indexName? steps = none) :
      Refuses model embedder steps .incompleteSearch
  | noText (h : last? Step.text? steps = none) :
      Refuses model embedder steps .incompleteSearch
  | unknownIndex {name text : String} (hname : last? Step.indexName? steps = some name)
      (htext : last? Step.text? steps = some text)
      (hunknown : ∀ index ∈ model.indexes, index.name ≠ name) :
      Refuses model embedder steps (.unknownIndex name model.name)
  | dimension {index : Index} {text : String} {vector : List Single}
      (hasks : Asks model steps index text) (hvector : embedder text index.dim = .ok vector)
      (hlength : vector.length ≠ index.dim) :
      Refuses model embedder steps (.dimensionMismatch index.dim vector.length)

variable {model : Model} {embedder : Embedder} {steps : List Step} {index : Index}
  {text : String} {e : Error}

theorem Refuses.kind (h : Refuses model embedder steps e) : e.kind = .validation := by
  cases h <;> rfl

theorem sql_of_incomplete
    (h : last? Step.indexName? steps = none ∨ last? Step.text? steps = none) :
    ((ofModel model).after steps).sql embedder = .error .incompleteSearch := by
  rw [after_ofModel, sql]
  rcases h with h | h
  · simp [h]
  · cases last? Step.indexName? steps <;> simp [h]

theorem sql_of_unknown {name : String} (hname : last? Step.indexName? steps = some name)
    (htext : last? Step.text? steps = some text)
    (hunknown : ∀ index ∈ model.indexes, index.name ≠ name) :
    ((ofModel model).after steps).sql embedder = .error (.unknownIndex name model.name) := by
  rw [after_ofModel, sql]
  simp [hname, htext, Model.index?_eq_none_iff.2 hunknown]

theorem condition_map (conditions : List Condition) (limit : Option Nat)
    (indexName text : Option String) :
    Search.condition ⟨model, conditions.map Condition.text, limit, indexName, text⟩ =
      if conditions = [] then "1=1" else " AND ".intercalate (conditions.map Condition.text) := by
  simp [Search.condition]

theorem sql_of_asks (h : Asks model steps index text) :
    ((ofModel model).after steps).sql embedder = (embed embedder text index.dim).map fun vector =>
      statement model index vector (conditions steps) (last? Step.limit? steps) := by
  rw [after_ofModel, sql]
  simp only [h.indexName, h.text, Model.index?_eq_some_iff.2 h.index, condition_map]
  cases embed embedder text index.dim with
  | error e => rfl
  | ok vector =>
    unfold statement
    cases last? Step.limit? steps <;> rfl

theorem Refuses.sql_eq (h : Refuses model embedder steps e) :
    ((ofModel model).after steps).sql embedder = .error e := by
  cases h with
  | noIndex h => exact sql_of_incomplete (.inl h)
  | noText h => exact sql_of_incomplete (.inr h)
  | unknownIndex hname htext hunknown => exact sql_of_unknown hname htext hunknown
  | dimension hasks hvector hlength =>
    rw [sql_of_asks hasks, Outcome.map_eq_error_iff, embed_eq_error_iff]
    exact .inr ⟨_, hvector, hlength, rfl⟩

theorem exists_refuses_or_asks (model : Model) (embedder : Embedder) (steps : List Step) :
    (∃ e, Refuses model embedder steps e) ∨ ∃ index text, Asks model steps index text := by
  cases hname : last? Step.indexName? steps with
  | none => exact .inl ⟨_, .noIndex hname⟩
  | some name =>
    cases htext : last? Step.text? steps with
    | none => exact .inl ⟨_, .noText htext⟩
    | some text =>
      cases hindex : model.index? name with
      | none => exact .inl ⟨_, .unknownIndex hname htext (Model.index?_eq_none_iff.1 hindex)⟩
      | some index =>
        have hfirst := Model.index?_eq_some_iff.1 hindex
        obtain ⟨-, -, -, rfl, -⟩ := id hfirst
        exact .inr ⟨index, text, hname, hfirst, htext⟩

theorem sql_after_eq_ok_iff {sql : String} : ((ofModel model).after steps).sql embedder = .ok sql ↔
    ∃ index text vector, Asks model steps index text ∧ embedder text index.dim = .ok vector ∧
      vector.length = index.dim ∧
      sql = statement model index vector (conditions steps) (last? Step.limit? steps) := by
  constructor
  · intro hsql
    rcases exists_refuses_or_asks model embedder steps with ⟨e, hrefuses⟩ | ⟨index, text, hasks⟩
    · rw [hrefuses.sql_eq] at hsql
      cases hsql
    · rw [sql_of_asks hasks] at hsql
      obtain ⟨vector, hvector, rfl⟩ := Outcome.map_eq_ok_iff.1 hsql
      obtain ⟨hvector, hlength⟩ := embed_eq_ok_iff.1 hvector
      exact ⟨index, text, vector, hasks, hvector, hlength, rfl⟩
  · rintro ⟨index, text, vector, hasks, hvector, hlength, rfl⟩
    rw [sql_of_asks hasks, embed_eq_ok_iff.2 ⟨hvector, hlength⟩]
    rfl

theorem sql_after_eq_error_iff : ((ofModel model).after steps).sql embedder = .error e ↔
    Refuses model embedder steps e ∨
      ∃ index text, Asks model steps index text ∧ embedder text index.dim = .error e := by
  constructor
  · intro hsql
    rcases exists_refuses_or_asks model embedder steps with ⟨e, hrefuses⟩ | ⟨index, text, hasks⟩
    · rw [hrefuses.sql_eq] at hsql
      cases hsql
      exact .inl hrefuses
    · rw [sql_of_asks hasks, Outcome.map_eq_error_iff, embed_eq_error_iff] at hsql
      rcases hsql with he | ⟨vector, hvector, hlength, rfl⟩
      · exact .inr ⟨index, text, hasks, he⟩
      · exact .inl (.dimension hasks hvector hlength)
  · rintro (hrefuses | ⟨index, text, hasks, he⟩)
    · exact hrefuses.sql_eq
    · rw [sql_of_asks hasks, Outcome.map_eq_error_iff, embed_eq_error_iff]
      exact .inl he

/-- Two runs of steps that agree, and what either gives. -/
theorem sql_after_of_agree {steps steps' : List Step} (h : Agree steps steps') (model : Model)
    (embedder : Embedder) :
    let answer := ((ofModel model).after steps).sql embedder
    answer = ((ofModel model).after steps').sql embedder ∧
    (∀ sql, answer = .ok sql ↔ ∃ index text vector, Asks model steps index text ∧
      embedder text index.dim = .ok vector ∧ vector.length = index.dim ∧
      sql = statement model index vector (conditions steps) (last? Step.limit? steps)) ∧
    (∀ e, answer = .error e ↔ Refuses model embedder steps e ∨
      ∃ index text, Asks model steps index text ∧ embedder text index.dim = .error e) ∧
    ∀ e, Refuses model embedder steps e → e.kind = .validation := by
  intro answer
  refine ⟨?_, fun sql => sql_after_eq_ok_iff, fun e => sql_after_eq_error_iff,
    fun e => Refuses.kind⟩
  simp only [answer, after_ofModel, h.conditions, h.indexName, h.text, h.limit]

/-- Two indexes of one name, an index and a text that are replaced, a filter that fails, and one
condition with and without its suffix. -/
theorem sql_after_of_agree_comments :
    let model : Model := ⟨"comments", [], Model.defaultEngine, [],
      [⟨"by_text", "text", 2, .cosine⟩, ⟨"by_text", "title", 3, .l2⟩]⟩
    let embedder : Embedder := fun _ dim => .ok (List.replicate dim (.finite (.zero _ false)))
    let steps : List Step := [.usingIndex "by_title", .filter "user_id__gte" (.int64 10),
      .filter "age__between" (.int64 1), .usingIndex "by_text", .forText "hi",
      .filter "lang" (.string "en"), .take 5]
    let steps' : List Step := [.take 9, .forText "old", .filter "user_id__gte" (.int64 10),
      .forText "hi", .take 5, .filter "lang__eq" (.string "en"), .usingIndex "by_text"]
    let sql := "SELECT *, cosineDistance(text_embedding, [0.0,0.0]) AS similarity_score" ++
      " FROM comments WHERE user_id >= 10 AND lang = 'en' ORDER BY similarity_score ASC LIMIT 5"
    Agree steps steps' ∧ ((ofModel model).after steps).sql embedder = .ok sql ∧
      ((ofModel model).after steps').sql embedder = .ok sql := by
  intro model embedder steps steps' sql
  have hagree : Agree steps steps' := ⟨rfl, rfl, rfl, rfl⟩
  obtain ⟨hsame, hok, -, -⟩ := sql_after_of_agree hagree model embedder
  have hasks : Asks model steps ⟨"by_text", "text", 2, .cosine⟩ "hi" :=
    ⟨rfl, ⟨[], _, rfl, rfl, by simp⟩, rfl⟩
  have hsql : ((ofModel model).after steps).sql embedder = .ok sql :=
    (hok sql).2 ⟨_, _, _, hasks, rfl, rfl, by decide +kernel⟩
  exact ⟨hagree, hsql, hsame ▸ hsql⟩

end Search

end Vector

end FluentQuery
