import FluentQuery.Proofs.ConnectionLaws

/-!
Calls of the executor, over any connection. Main statements: what a call does is known from what it
is given, and loading a reader whose rows are known is one run of texts, whatever the size of the
batches.
-/
namespace FluentQuery

open Embedded

variable {σ : Type} {connection : Connection σ}

/-- A redirected text with the texts that go before and after it, as the connection sees them. -/
def Connection.pass (connection : Connection σ) (schema : Schema) (rows : List (List Json))
    (sql : String) (a : σ) : Except Error ResultTable × σ :=
  match connection.executeAll (loadingTexts schema rows) a with
  | (false, a) => (.error .database, a)
  | (true, a) =>
    let (result, a) := connection.perform sql a
    let (removed, a) := connection.execute removalSql [] a
    (if removed then result else .error .database, a)

namespace Executor

section Statements

variable {statement : Statement} {sql : String} {handle : Handle}

theorem engine_redirected (connection : Connection σ) (h : statement.format.isOther = false)
    (hreader : statement.reader = some handle) (hsql : redirect? statement.sql = some sql)
    (executor : Executor σ) (shelf : Shelf) :
    engine connection statement (executor, shelf) =
      ((executor.performWith connection sql handle shelf).1.bind (·.render statement.format),
        (executor.performWith connection sql handle shelf).2) := by
  rw [engine, if_neg (by simp [h]), hreader, hsql]

end Statements

section Readers

variable {handle : Handle} {shelf : Shelf} {executor : Executor σ}

theorem load_of_ne_nil {schema : Schema} (hschema : shelf.schema handle = .ok schema)
    (hne : schema ≠ []) (executor : Executor σ) :
    executor.load connection handle shelf =
      match connection.executeAll [(removalSql, []), (creationSql schema, [])] executor.state with
      | (false, state) => (.error .database, { executor with state := state }, shelf)
      | (true, state) => match shelf.readAll handle (Assoc.keys schema) executor.batch with
        | (.error e, shelf) => (.error e, { executor with state := state }, shelf)
        | (.ok rows, shelf) =>
          match connection.executeAll (insertions (Assoc.keys schema) rows) state with
          | (false, state) => (.error .database, { executor with state := state }, shelf)
          | (true, state) => (.ok (), { executor with state := state }, shelf) := by
  obtain ⟨column, others, rfl⟩ := List.exists_cons_of_ne_nil hne
  unfold load
  generalize shelf.schema handle = answer at hschema
  subst hschema
  rfl

/-- What loading the reader comes to, for executors that take this many rows at a time: it is refused
before the connection is used, or it is one run of the texts for these rows. -/
def Loads (connection : Connection σ) (handle : Handle) (shelf : Shelf) (batch : Nat) :
    Except Error (Schema × List (List Json)) → Prop
  | .error e => ∀ a, (⟨a, batch⟩ : Executor σ).load connection handle shelf =
      (.error e, ⟨a, batch⟩, shelf)
  | .ok (schema, rows) => ∀ a, (⟨a, batch⟩ : Executor σ).load connection handle shelf =
      match connection.executeAll (loadingTexts schema rows) a with
      | (false, a) => (.error .database, ⟨a, batch⟩, shelf)
      | (true, a) => (.ok (), ⟨a, batch⟩, shelf)

/-- A reader that gives its rows and is then as before is loaded by one run of texts. -/
theorem loads_of_readAll {schema : Schema} (hschema : shelf.schema handle = .ok schema)
    (hne : schema ≠ []) {rows : List (List Json)} {batch : Nat}
    (hread : shelf.readAll handle (Assoc.keys schema) batch = (.ok rows, shelf)) :
    Loads connection handle shelf batch (.ok (schema, rows)) := by
  intro a
  have htexts : loadingTexts schema rows =
      [(removalSql, []), (creationSql schema, [])] ++ insertions (Assoc.keys schema) rows := rfl
  rw [load_of_ne_nil hschema hne, htexts, Connection.executeAll_append]
  cases connection.executeAll [(removalSql, []), (creationSql schema, [])] a with
  | mk accepted a =>
    cases accepted with
    | false => rfl
    | true => simp only [hread]

/-- A statement over a reader that is loaded by texts is one pass of the connection. -/
theorem performWith_of_ok {schema : Schema} {rows : List (List Json)} {batch : Nat}
    (h : Loads connection handle shelf batch (.ok (schema, rows))) (sql : String) (a : σ) :
    (⟨a, batch⟩ : Executor σ).performWith connection sql handle shelf =
      ((connection.pass schema rows sql a).1, ⟨(connection.pass schema rows sql a).2, batch⟩,
        shelf) := by
  rw [performWith, h a, Connection.pass]
  cases connection.executeAll (loadingTexts schema rows) a with
  | mk accepted a => cases accepted <;> rfl

end Readers

end Executor

end FluentQuery
