import FluentQuery.Proofs.EmbeddedRows
import FluentQuery.Vector.Store

/-!
Runs of operations on a store of vector tables, with every exchange between the store and its
engine. Main statement: whatever the engine answers, a name is registered just where all statements
of an earlier creation under that name succeeded, and then with the last such model; and each
operation sends the statements that it has, whose texts are given, and no others.
-/
namespace FluentQuery

structure Exchange where
  statement : Statement
  answer : Except Error String

def Engine.logged {σ : Type} (engine : Engine σ) : Engine (List Exchange × σ) :=
  fun statement (log, state) =>
    let (answer, next) := engine statement state
    (answer, log ++ [⟨statement, answer⟩], next)

def Statement.forEffect (sql : String) : Statement := ⟨sql, .tabSeparated, none⟩

/-- The exchanges of statements that run one after another until one fails, and how that ends. -/
inductive Attempt : List String → List Exchange → Except Error Unit → Prop
  | done : Attempt [] [] (.ok ())
  | failed (sql : String) (rest : List String) (e : Error) :
    Attempt (sql :: rest) [⟨.forEffect sql, .error e⟩] (.error e)
  | next {rest : List String} {exchanges : List Exchange} {result : Except Error Unit}
    (sql answer : String) (h : Attempt rest exchanges result) :
    Attempt (sql :: rest) (⟨.forEffect sql, .ok answer⟩ :: exchanges) result

/-- An attempt succeeds just where every statement was sent and none failed. -/
theorem Attempt.result_eq_ok_iff {statements : List String} {exchanges : List Exchange}
    {result : Except Error Unit} (h : Attempt statements exchanges result) :
    result = .ok () ↔ exchanges.map Exchange.statement = statements.map .forEffect ∧
      exchanges.all (·.answer.isOk) = true := by
  induction h with
  | done => simp
  | failed sql rest e => simp [Except.isOk, Except.toBool]
  | next sql answer h ih => simp [ih, Except.isOk, Except.toBool]

namespace Vector.Model

variable {model : Model}

/-- What a table declares: its columns, and its primary key if it has one. -/
def declarations (model : Model) : List String :=
  model.columns.map Column.sql ++ if model.primaryKeys = [] then []
    else ["PRIMARY KEY (" ++ ", ".intercalate model.primaryKeys ++ ")"]

/-- The creation of a table with columns, and then the column of each index in order. -/
def statements (model : Model) : List String :=
  ("CREATE TABLE IF NOT EXISTS " ++ model.name ++ " (" ++ ", ".intercalate model.declarations ++
      ") ENGINE = " ++ model.engine ++ " ORDER BY " ++ model.sortingKey) ::
    model.indexes.map fun index => "ALTER TABLE " ++ model.name ++ " ADD COLUMN IF NOT EXISTS " ++
      index.sourceField ++ "_embedding" ++ " Array(Float32)"

theorem creation_eq (h : model.columns ≠ []) : Store.creation model = .ok model.statements := by
  have hcreate : model.createSql = .ok ("CREATE TABLE IF NOT EXISTS " ++ model.name ++ " (" ++
      ", ".intercalate model.declarations ++ ") ENGINE = " ++ model.engine ++ " ORDER BY " ++
      model.sortingKey) := by
    rw [createSql, if_neg (by simpa using h), declarations]
    simp only [List.isEmpty_iff]
  have hadd : model.addEmbeddingSql = fun index => "ALTER TABLE " ++ model.name ++
      " ADD COLUMN IF NOT EXISTS " ++ index.sourceField ++ "_embedding" ++ " Array(Float32)" := by
    funext index
    rw [addEmbeddingSql, Index.embeddingColumn]
    simp only [String.append_assoc]
  rw [Store.creation, hcreate, hadd]
  rfl

theorem creation_of_columns_eq_nil (h : model.columns = []) :
    Store.creation model = .error (.noFields model.name) := by
  rw [Store.creation, createSql, h]
  rfl

end Vector.Model

namespace Vector.Store

variable {σ : Type} {embedder : Embedder} {engine : Engine σ} {store : Store} {state : σ}

/-- An operation on a store. A search brings the embedder of its own. -/
inductive Operation where
  | createTable (model : Model)
  | table (name : String)
  | insert (name : String) (record : Record)
  | insertMany (name : String) (records : List Record)
  | search (embedder : Embedder) (search : Search)

/-- What an operation comes to: whether it succeeds, its exchanges with the engine, and the store
and the engine's state after it. -/
structure Step (σ : Type) where
  result : Except Error Unit
  exchanges : List Exchange
  store : Store
  state : σ

def step (embedder : Embedder) (engine : Engine σ) (store : Store) (state : σ) :
    Operation → Step σ
  | .createTable model =>
    let outcome := store.createTable engine model state
    ⟨outcome.1.map fun _ => (), (store.createTable engine.logged model ([], state)).2.1,
      outcome.1.toOption.getD store, outcome.2⟩
  | .table name => ⟨(store.table name).map fun _ => (), [], store, state⟩
  | .insert name record =>
    let outcome := store.insert embedder engine name record state
    ⟨outcome.1, (store.insert embedder engine.logged name record ([], state)).2.1, store, outcome.2⟩
  | .insertMany name records =>
    let outcome := store.insertMany embedder engine name records state
    ⟨outcome.1, (store.insertMany embedder engine.logged name records ([], state)).2.1, store,
      outcome.2⟩
  | .search own search =>
    let outcome := Store.search own engine search state
    ⟨outcome.1.map fun _ => (), (Store.search own engine.logged search ([], state)).2.1, store,
      outcome.2⟩

/-- Operations with their exchanges, and the store and the engine's state after them. -/
structure Run (σ : Type) where
  history : List (Operation × List Exchange)
  store : Store
  state : σ

def runFrom (embedder : Embedder) (engine : Engine σ) (store : Store) (state : σ) :
    List Operation → Run σ
  | [] => ⟨[], store, state⟩
  | operation :: rest =>
    let first := step embedder engine store state operation
    let run := runFrom embedder engine first.store first.state rest
    { run with history := (operation, first.exchanges) :: run.history }

/-- The model of a creation that has completed all of its statements. -/
def created? : Operation × List Exchange → Option Model
  | (.createTable model, exchanges) =>
    if model.columns ≠ [] ∧ exchanges.map Exchange.statement = model.statements.map .forEffect ∧
        exchanges.all (·.answer.isOk) = true then some model else none
  | _ => none

/-- The last model of a name whose creation has completed all of its statements. -/
def lastCreated? (name : String) (history : List (Operation × List Exchange)) : Option Model :=
  ((history.filterMap created?).filter (·.name = name)).getLast?

theorem lastCreated?_cons (name : String) (event : Operation × List Exchange)
    (history : List (Operation × List Exchange)) :
    lastCreated? name (event :: history) =
      (lastCreated? name history).or ((created? event).filter (·.name = name)) := by
  cases hevent : created? event with
  | none => simp [lastCreated?, hevent]
  | some model =>
    by_cases hname : model.name = name
    · simp [lastCreated?, hevent, hname, List.getLast?_cons, Option.filter]
    · simp [lastCreated?, hevent, hname, Option.filter]

/-! What the log of one operation holds. -/

theorem runAll_logged (engine : Engine σ) (statements : List String) (log : List Exchange)
    (state : σ) : ∃ exchanges,
      runAll engine.logged statements (log, state) =
        ((runAll engine statements state).1, log ++ exchanges,
          (runAll engine statements state).2) ∧
      Attempt statements exchanges (runAll engine statements state).1 := by
  induction statements generalizing log state with
  | nil => exact ⟨[], by simp [runAll], .done⟩
  | cons sql rest ih =>
    have hrun : run engine sql state = (((engine (.forEffect sql) state).1.map fun _ => ()),
      (engine (.forEffect sql) state).2) := rfl
    have hlogged : run engine.logged sql (log, state) =
        ((run engine sql state).1, log ++ [⟨.forEffect sql, (engine (.forEffect sql) state).1⟩],
          (run engine sql state).2) := rfl
    rw [runAll, hlogged, runAll, hrun]
    cases hanswer : (engine (.forEffect sql) state).1 with
    | error e => exact ⟨_, rfl, .failed sql rest e⟩
    | ok answer =>
      obtain ⟨exchanges, heq, hattempt⟩ :=
        ih (log ++ [⟨.forEffect sql, .ok answer⟩]) (engine (.forEffect sql) state).2
      refine ⟨⟨.forEffect sql, .ok answer⟩ :: exchanges, ?_, .next sql answer hattempt⟩
      rw [List.append_assoc] at heq
      exact heq

theorem runResult_logged (engine : Engine σ) (sql : Except Error String) (state : σ) :
    (runResult engine.logged sql ([], state)).2.1 = match sql with
      | .ok sql => [⟨.forEffect sql, (engine (.forEffect sql) state).1⟩]
      | .error _ => [] := by
  cases sql <;> rfl

theorem search_logged (own : Embedder) (engine : Engine σ) (search : Search) (state : σ) :
    (Store.search own engine.logged search ([], state)).2.1 = match search.sql own with
      | .ok sql => [⟨⟨sql, .jsonEachRow, none⟩, (engine ⟨sql, .jsonEachRow, none⟩ state).1⟩]
      | .error _ => [] := by
  unfold Store.search
  cases search.sql own <;> rfl

/-! What one operation does. -/

theorem step_createTable (embedder : Embedder) (engine : Engine σ) (store : Store) (state : σ)
    (model : Model) :
    (model.columns = [] ∧ step embedder engine store state (.createTable model) =
      ⟨.error (.noFields model.name), [], store, state⟩) ∨
    ∃ exchanges result next, model.columns ≠ [] ∧
      Attempt model.statements exchanges result ∧
      step embedder engine store state (.createTable model) = ⟨result, exchanges,
        if result = .ok () then ⟨Assoc.put model.name model store.tables⟩ else store, next⟩ := by
  by_cases hcolumns : model.columns = []
  · have hcreation := Model.creation_of_columns_eq_nil hcolumns
    exact .inl ⟨hcolumns, by simp [step, createTable, hcreation, Except.map, Except.toOption]⟩
  · obtain ⟨exchanges, hlogged, hattempt⟩ := runAll_logged engine model.statements [] state
    refine .inr ⟨exchanges, _, (runAll engine model.statements state).2, hcolumns, hattempt, ?_⟩
    simp only [step, createTable, Model.creation_eq hcolumns, hlogged, List.nil_append]
    cases (runAll engine model.statements state).1 with
    | error e => simp [Except.map, Except.toOption]
    | ok _ => simp [Except.map, Except.toOption]

/-- Only a creation whose statements have all succeeded changes what is registered. -/
theorem get?_step (name : String) (operation : Operation) :
    Assoc.get? name (step embedder engine store state operation).store.tables =
      ((created? (operation, (step embedder engine store state operation).exchanges)).filter
        (·.name = name)).or (Assoc.get? name store.tables) := by
  cases operation with
  | createTable model =>
    rcases step_createTable embedder engine store state model with
      ⟨hcolumns, hstep⟩ | ⟨exchanges, result, next, hcolumns, hattempt, hstep⟩
    · simp [hstep, created?, hcolumns]
    · simp only [hstep, created?, hcolumns, ne_eq, not_false_eq_true, true_and,
        ← hattempt.result_eq_ok_iff]
      split
      · rw [Assoc.get?_put, Option.filter_some]
        by_cases hname : model.name = name
        · simp [hname]
        · simp [hname, Ne.symm hname]
      · rfl
  | table _ | insert _ _ | insertMany _ _ | search _ _ => rfl

theorem get?_runFrom (name : String) (operations : List Operation) :
    Assoc.get? name (runFrom embedder engine store state operations).store.tables =
      (lastCreated? name (runFrom embedder engine store state operations).history).or
        (Assoc.get? name store.tables) := by
  induction operations generalizing store state with
  | nil => rfl
  | cons operation rest ih =>
    rw [runFrom]
    dsimp only
    rw [ih, lastCreated?_cons, get?_step, Option.or_assoc]

theorem table_eq (store : Store) (name : String) :
    store.table name = match Assoc.get? name store.tables with
      | some model => .ok model
      | none => .error (.unknownTable name) := rfl

/-- A creation without columns is refused before anything is sent. Any other sends the statement
for the table and then one for each index, in order, until one fails; then the store is as it was
before. -/
structure Creates (model : Model) (store : Store) (step : Step σ) : Prop where
  refused : model.columns = [] → step.exchanges = [] ∧ step.result = .error (.noFields model.name)
  attempted : model.columns ≠ [] → Attempt model.statements step.exchanges step.result
  kept : ∀ e, step.result = .error e → step.store = store

/-- Where the condition holds one such statement is sent, and otherwise none, which is an error.
The store is as it was before. -/
structure SendsOneIf (condition : Prop) (Sent : Statement → Prop) (store : Store)
    (step : Step σ) : Prop where
  sent : condition → ∃ statement answer, step.exchanges = [⟨statement, answer⟩] ∧ Sent statement
  refused : ¬ condition → step.exchanges = [] ∧ ∃ e, step.result = .error e
  kept : step.store = store

/-- The statement inserts the records into the table of this name, for its effect. -/
def InsertsInto (embedder : Embedder) (store : Store) (name : String) (records : List Record)
    (statement : Statement) : Prop :=
  ∃ model sql, store.table name = .ok model ∧ model.Inserts embedder records sql ∧
    statement = .forEffect sql

/-- The statement is that of the search, with a JSON object for each row. -/
def SearchesFor (own : Embedder) (search : Search) (statement : Statement) : Prop :=
  ∃ sql, search.sql own = .ok sql ∧ statement = ⟨sql, .jsonEachRow, none⟩

theorem creates_step (embedder : Embedder) (engine : Engine σ) (store : Store) (state : σ)
    (model : Model) :
    Creates model store (step embedder engine store state (.createTable model)) := by
  rcases step_createTable embedder engine store state model with
    ⟨hcolumns, hstep⟩ | ⟨exchanges, result, next, hcolumns, hattempt, hstep⟩
  · rw [hstep]
    exact ⟨fun _ => ⟨rfl, rfl⟩, fun hne => absurd hcolumns hne, fun _ _ => rfl⟩
  · rw [hstep]
    refine ⟨fun hnil => absurd hnil hcolumns, fun _ => hattempt, fun e he => ?_⟩
    obtain rfl : result = .error e := he
    simp

theorem sendsOneIf_runResult {condition : Prop} {Sent : Statement → Prop}
    {sql : Except Error String} {step : Step σ}
    (hcondition : (∃ text, sql = .ok text) ↔ condition)
    (hsent : ∀ text, sql = .ok text → Sent (.forEffect text))
    (hresult : step.result = (runResult engine sql state).1)
    (hexchanges : step.exchanges = (runResult engine.logged sql ([], state)).2.1)
    (hstore : step.store = store) : SendsOneIf condition Sent store step := by
  rw [runResult_logged] at hexchanges
  rw [← hcondition]
  cases sql with
  | ok text =>
    exact ⟨fun _ => ⟨_, _, hexchanges, hsent text rfl⟩, fun h => absurd ⟨text, rfl⟩ h, hstore⟩
  | error e =>
    exact ⟨fun ⟨_, h⟩ => absurd h nofun, fun _ => ⟨hexchanges, e, hresult⟩, hstore⟩

theorem sendsOneIf_insert (embedder : Embedder) (engine : Engine σ) (store : Store) (state : σ)
    (name : String) (record : Record) :
    SendsOneIf
      (∃ model, store.table name = .ok model ∧ record ≠ [] ∧ model.Embeds embedder record)
      (InsertsInto embedder store name [record]) store
      (step embedder engine store state (.insert name record)) := by
  have hcondition : (∃ sql, (do (← store.table name).insertSql embedder record) = .ok sql) ↔
      ∃ model, store.table name = .ok model ∧ record ≠ [] ∧ model.Embeds embedder record := by
    simp only [Outcome.bind_eq_ok_iff, ← Model.exists_insertSql_iff]
    rw [exists_comm]
    simp only [exists_and_left]
  have hsent : ∀ sql, (do (← store.table name).insertSql embedder record) = .ok sql →
      InsertsInto embedder store name [record] (.forEffect sql) := by
    intro sql hsql
    obtain ⟨model, hmodel, hinsert⟩ := Outcome.bind_eq_ok_iff.1 hsql
    rw [← Model.insertManySql_singleton] at hinsert
    exact ⟨model, sql, hmodel, Model.insertManySql_eq_ok_iff.1 hinsert, rfl⟩
  exact @sendsOneIf_runResult σ engine store state _ _ _
    (step embedder engine store state (.insert name record)) hcondition hsent rfl rfl rfl

theorem sendsOneIf_insertMany (embedder : Embedder) (engine : Engine σ) (store : Store)
    (state : σ) (name : String) (records : List Record) :
    SendsOneIf
      (∃ model, store.table name = .ok model ∧
        (∃ first, records.head? = some first ∧ first ≠ []) ∧
          ∀ record ∈ records, model.Embeds embedder record)
      (InsertsInto embedder store name records) store
      (step embedder engine store state (.insertMany name records)) := by
  have hcondition : (∃ sql, (do (← store.table name).insertManySql embedder records) = .ok sql) ↔
      ∃ model, store.table name = .ok model ∧
        (∃ first, records.head? = some first ∧ first ≠ []) ∧
          ∀ record ∈ records, model.Embeds embedder record := by
    simp only [Outcome.bind_eq_ok_iff, ← Model.exists_insertManySql_iff]
    rw [exists_comm]
    simp only [exists_and_left]
  have hsent : ∀ sql, (do (← store.table name).insertManySql embedder records) = .ok sql →
      InsertsInto embedder store name records (.forEffect sql) := by
    intro sql hsql
    obtain ⟨model, hmodel, hinsert⟩ := Outcome.bind_eq_ok_iff.1 hsql
    exact ⟨model, sql, hmodel, Model.insertManySql_eq_ok_iff.1 hinsert, rfl⟩
  exact @sendsOneIf_runResult σ engine store state _ _ _
    (step embedder engine store state (.insertMany name records)) hcondition hsent rfl rfl rfl

theorem sendsOneIf_search (embedder : Embedder) (engine : Engine σ) (store : Store) (state : σ)
    (own : Embedder) (search : Search) :
    SendsOneIf (∃ sql, search.sql own = .ok sql) (SearchesFor own search) store
      (step embedder engine store state (.search own search)) := by
  have hexchanges : (step embedder engine store state (.search own search)).exchanges =
    (Store.search own engine.logged search ([], state)).2.1 := rfl
  have hresult : (step embedder engine store state (.search own search)).result =
    (Store.search own engine search state).1.map fun _ => () := rfl
  rw [search_logged] at hexchanges
  rw [Store.search] at hresult
  cases hsql : search.sql own with
  | ok sql =>
    rw [hsql] at hexchanges
    exact ⟨fun _ => ⟨_, _, hexchanges, sql, hsql, rfl⟩, fun h => absurd ⟨sql, rfl⟩ h, rfl⟩
  | error e =>
    rw [hsql] at hexchanges hresult
    exact ⟨fun ⟨_, h⟩ => absurd h nofun, fun _ => ⟨hexchanges, e, hresult⟩, rfl⟩

/-- At every point of a run from the empty store a table is found just where an earlier creation
under its name has completed all of its statements, and then it is the last such model. Whatever
operation comes next, it sends what it has to send and no more, and only a creation that completes
changes the store. -/
theorem table_runFrom (embedder : Embedder) (engine : Engine σ) (operations : List Operation)
    (state : σ) :
    let run := runFrom embedder engine .empty state operations
    let next := step embedder engine run.store run.state
    (∀ name, run.store.table name = match lastCreated? name run.history with
      | some model => .ok model
      | none => .error (.unknownTable name)) ∧
    (∀ model, Creates model run.store (next (.createTable model))) ∧
    (∀ name record, SendsOneIf
      (∃ model, run.store.table name = .ok model ∧ record ≠ [] ∧ model.Embeds embedder record)
      (InsertsInto embedder run.store name [record]) run.store (next (.insert name record))) ∧
    (∀ name records, SendsOneIf
      (∃ model, run.store.table name = .ok model ∧
        (∃ first, records.head? = some first ∧ first ≠ []) ∧
          ∀ record ∈ records, model.Embeds embedder record)
      (InsertsInto embedder run.store name records) run.store (next (.insertMany name records))) ∧
    (∀ own search, SendsOneIf (∃ sql, search.sql own = .ok sql) (SearchesFor own search) run.store
      (next (.search own search))) := by
  intro run next
  refine ⟨fun name => ?_, fun model => creates_step _ _ _ _ _,
    fun name record => sendsOneIf_insert _ _ _ _ _ _,
    fun name records => sendsOneIf_insertMany _ _ _ _ _ _,
    fun own search => sendsOneIf_search _ _ _ _ _ _⟩
  have hget : Assoc.get? name run.store.tables =
      (lastCreated? name run.history).or (Assoc.get? name Store.empty.tables) := get?_runFrom _ _
  rw [table_eq, hget]
  cases lastCreated? name run.history <;> rfl

def canned : Engine (List (Except Error String)) := fun _ answers => match answers with
  | [] => (.ok "", [])
  | answer :: rest => (answer, rest)

/-- The second creation under a name fails at its second statement, so the first model stays; a
third one under that name completes. -/
theorem table_runFrom_comments :
    let index (dim : Nat) : Index := ⟨"text_idx", "text", dim, .cosine⟩
    let id : Column := ⟨"id", .string, true, true, false, none⟩
    let time : Column := ⟨"time", .dateTime, false, false, true, none⟩
    let model (dim : Nat) : Model :=
      ⟨"comments", [id, ⟨"text", .string, false, false, false, some (.string "n/a")⟩, time],
        Model.defaultEngine, [], [index dim]⟩
    let answers : List (Except Error String) := [.ok "", .ok "", .ok "", .error .database]
    let twice := runFrom foldEmbedder canned .empty answers
      [.createTable (model 2), .createTable (model 3)]
    let thrice := runFrom foldEmbedder canned .empty answers
      [.createTable (model 2), .createTable (model 3), .createTable (model 4)]
    let again := step foldEmbedder canned thrice.store thrice.state (.createTable (model 5))
    (twice.store.table "comments").map Model.indexes = .ok [index 2] ∧
      (thrice.store.table "comments").map Model.indexes = .ok [index 4] ∧
      twice.history.map (fun event => event.2.length) = [2, 2] ∧
      again.exchanges.map (fun exchange => exchange.statement.sql) =
        ["CREATE TABLE IF NOT EXISTS comments (id String DEFAULT generateUUIDv4(), " ++
          "text String DEFAULT 'n/a', time DateTime DEFAULT now(), PRIMARY KEY (id)) " ++
          "ENGINE = MergeTree ORDER BY id",
        "ALTER TABLE comments ADD COLUMN IF NOT EXISTS text_embedding Array(Float32)"] := by
  intro index id time model answers twice thrice again
  have htwice := (table_runFrom foldEmbedder canned
    [.createTable (model 2), .createTable (model 3)] answers).1 "comments"
  have hthrice := (table_runFrom foldEmbedder canned
    [.createTable (model 2), .createTable (model 3), .createTable (model 4)] answers).1 "comments"
  refine ⟨?_, ?_, by decide +kernel, by decide +kernel⟩
  · rw [htwice]
    decide +kernel
  · rw [hthrice]
    decide +kernel

end Vector.Store

end FluentQuery
