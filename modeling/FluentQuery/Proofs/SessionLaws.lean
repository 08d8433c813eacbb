import FluentQuery.Proofs.ConnectionLaws
import FluentQuery.Proofs.QueryText

/-!
The small database keeps the laws. Main statements: it treats the table for a reader as the laws
say, and a text that starts with `SELECT` only reads.
-/
namespace FluentQuery.Sql.Session

open Embedded

/-- There are no views, no foreign keys and no indexes. -/
def contentsOf (database : Database) : Contents Unit := ⟨database, false, false, false, false, ()⟩

/-- No headings are ever forgotten. -/
def sight : Sight Session Unit :=
  ⟨fun session => contentsOf session.database, fun session sql => Assoc.get? sql session.headings,
    fun _ _ _ => True⟩

theorem contentsOf_injective {a b : Database} (h : contentsOf a = contentsOf b) : a = b :=
  congrArg (fun c => c.tables) h

theorem contentsOf_tables {c : Contents Unit} {table : StoredTable} {a : Session}
    (h : sight.contents a = c.topped table) : contentsOf c.tables = c := by
  obtain ⟨tables, viewed, occupied, referenced, encumbered, rest⟩ := c
  cases show false = viewed from congrArg (fun c => c.viewed) h
  cases show false = occupied from congrArg (fun c => c.occupied) h
  cases show false = referenced from congrArg (fun c => c.referenced) h
  cases show false = encumbered from congrArg (fun c => c.encumbered) h
  rfl

theorem contentsOf_topped {c : Contents Unit} {table : StoredTable} {a : Session}
    (h : sight.contents a = c.topped table) (next : StoredTable) :
    contentsOf (c.tables.topped next) = c.topped next :=
  congrArg (fun c => c.topped next) (contentsOf_tables h)

section Runs

variable {a a' b : Session} {sql : String} {parameters : List Cell} {accepted : Bool}

theorem run?_congr (h : a.database = b.database) : a.run? sql parameters = b.run? sql parameters := by
  rw [run?, run?, h]

theorem run?_of_accepted (h : connection.execute sql parameters a = (true, a')) :
    ∃ answer database, a.run? sql parameters = some (answer, database) ∧
      a' = { a with database := database } := by
  cases hrun : a.run? sql parameters with
  | none => simp [connection, hrun] at h
  | some run =>
    obtain ⟨answer, database⟩ := run
    exact ⟨answer, database, rfl, by simpa [connection, hrun, eq_comm] using h⟩

theorem eq_of_refused (h : connection.execute sql parameters a = (false, a')) : a' = a := by
  cases hrun : a.run? sql parameters with
  | none => simpa [connection, hrun, eq_comm] using h
  | some run => simp [connection, hrun] at h

theorem headings_execute (h : connection.execute sql parameters a = (accepted, a')) :
    a'.headings = a.headings := by
  cases accepted with
  | false => rw [eq_of_refused h]
  | true =>
    obtain ⟨_, _, -, rfl⟩ := run?_of_accepted h
    rfl

theorem execute_congr (hdatabase : a.database = b.database)
    (h : connection.execute sql parameters a = (accepted, a')) :
    ∃ b', connection.execute sql parameters b = (accepted, b') ∧ b'.database = a'.database := by
  cases accepted with
  | false =>
    have hrun : a.run? sql parameters = none := by
      cases hrun : a.run? sql parameters with
      | none => rfl
      | some run => simp [connection, hrun] at h
    refine ⟨b, ?_, by rw [eq_of_refused h, hdatabase]⟩
    simp only [connection, ← run?_congr hdatabase, hrun]
  | true =>
    obtain ⟨answer, database, hrun, rfl⟩ := run?_of_accepted h
    refine ⟨{ b with database := database }, ?_, rfl⟩
    simp only [connection, ← run?_congr hdatabase, hrun]

end Runs

theorem execute_removalSql (a : Session) : connection.execute removalSql [] a =
    (true, { a with database := a.database.drop readerTable }) := by
  have htext : Command.ofText? removalSql = some (.drop true readerTable) := by decide +kernel
  simp only [connection, run?, htext, Option.bind_some, Command.run?, Bool.true_or, if_true]

theorem database_of_removed {a a' : Session}
    (h : connection.execute removalSql [] a = (true, a')) :
    a'.database = a.database.drop readerTable := by
  rw [execute_removalSql] at h
  cases h
  rfl

theorem tableAmong?_drop_of_lacks {database : Database} (hl : database.Lacks readerTable) :
    Database.tableAmong? readerTable (database.drop readerTable).permanent = none := by
  have hnone : ¬ (Database.tableAmong? readerTable database.temporary).isSome = true := by
    simp [show Database.tableAmong? readerTable database.temporary = none from hl]
  rw [Database.drop, if_neg hnone]
  refine List.find?_eq_none.2 fun table ht => ?_
  simpa using (List.mem_filter.1 ht).2

theorem drop_of_nothing {database : Database} (hl : database.Lacks readerTable)
    (hp : Database.tableAmong? readerTable database.permanent = none) :
    database.drop readerTable = database := by
  have hnone : ¬ (Database.tableAmong? readerTable database.temporary).isSome = true := by
    simp [show Database.tableAmong? readerTable database.temporary = none from hl]
  have hkeep : database.permanent.filter (fun table => !sameName table.name readerTable) =
      database.permanent := by
    refine List.filter_eq_self.2 fun table ht => ?_
    simpa using List.find?_eq_none.1 hp table ht
  rw [Database.drop, if_neg hnone, hkeep]

theorem permanent_drop_of_not_lacks {database : Database} (hl : ¬ database.Lacks readerTable) :
    (database.drop readerTable).permanent = database.permanent := by
  rw [Database.drop, if_pos (Option.isSome_iff_ne_none.2 hl)]

theorem created_of_accepted {schema : Schema} {a a' : Session}
    (hl : a.database.Lacks readerTable)
    (h : connection.execute (creationSql schema) [] a = (true, a')) :
    ∃ table, table.name = readerTable ∧ a'.database = a.database.topped table := by
  obtain ⟨answer, database, hrun, rfl⟩ := run?_of_accepted h
  obtain ⟨command, htext, hcommand⟩ := Option.bind_eq_some_iff.1 hrun
  obtain ⟨columns, rfl⟩ := ofText?_creationSql htext
  obtain ⟨created, hcreated, hpair⟩ := Option.map_eq_some_iff.1 hcommand
  cases hpair
  rw [Database.create_of_lacks hl] at hcreated
  split at hcreated
  · cases hcreated
  · cases hcreated
    exact ⟨⟨readerTable, columns, []⟩, rfl, rfl⟩

theorem inserted_of_accepted {names : List String} {row : List Cell} {a a' : Session}
    {database : Database} {table : StoredTable} (hl : database.Lacks readerTable)
    (ht : table.name = readerTable) (hdatabase : a.database = database.topped table)
    (h : connection.execute (insertionSql names) row a = (true, a')) :
    ∃ next, next.name = readerTable ∧ a'.database = database.topped next := by
  obtain ⟨answer, result, hrun, rfl⟩ := run?_of_accepted h
  obtain ⟨command, htext, hcommand⟩ := Option.bind_eq_some_iff.1 hrun
  obtain ⟨columns, rows, rfl⟩ := ofText?_insertionSql htext
  have hsame : sameName table.name readerTable = true := by simp [ht, sameName]
  rw [hdatabase, run?_insert_topped hl hsame] at hcommand
  obtain ⟨added, -, hpair⟩ := Option.map_eq_some_iff.1 hcommand
  cases hpair
  exact ⟨table.append added, ht, rfl⟩

theorem laws : Laws connection sight where
  congr _ _ hcontents h := by
    obtain ⟨b', hb', hdatabase⟩ := execute_congr (contentsOf_injective hcontents) h
    exact ⟨b', hb', congrArg contentsOf hdatabase⟩
  refused _ _ h := by rw [eq_of_refused h]
  removed_lacks {a _} h := by
    have hlacks := Database.lacks_drop a.database readerTable
    rwa [← database_of_removed h] at hlacks
  removed_hidden hl h :=
    (congrArg Database.permanent (database_of_removed h)).trans (permanent_drop_of_not_lacks hl)
  removed_owned {a _} hl h := by
    have hgone := tableAmong?_drop_of_lacks (show a.database.Lacks readerTable from hl)
    rw [← database_of_removed h] at hgone
    exact not_not_intro hgone
  removed_nothing hl ho h := by
    have hsame := drop_of_nothing hl (Decidable.of_not_not ho)
    exact congrArg contentsOf ((database_of_removed h).trans hsame)
  removed_tables _ h := database_of_removed h
  removed_names _ _ := ⟨rfl, rfl, rfl⟩
  removed_top {a _ c table} hf ht hc h := by
    have hsame : sameName table.name readerTable = true := by simp [ht, sameName]
    have hdatabase : a.database = c.tables.topped table := congrArg (fun c => c.tables) hc
    have hdrop := database_of_removed h
    rw [hdatabase, Database.drop_topped hf.lacks hsame] at hdrop
    exact (congrArg contentsOf hdrop).trans (contentsOf_tables hc)
  unencumbered _ _ _ := rfl
  removal_of_view _ hv _ := by cases hv
  removal_of_nothing _ h := by
    rw [execute_removalSql] at h
    cases h
    rfl
  removal_of_top _ _ h := by
    rw [execute_removalSql] at h
    cases h
    rfl
  created _ hl h := by
    obtain ⟨table, ht, hdatabase⟩ := created_of_accepted hl h
    exact ⟨table, ht, congrArg contentsOf hdatabase⟩
  inserted _ hl ht hc h := by
    obtain ⟨next, hnext, hdatabase⟩ :=
      inserted_of_accepted hl ht (congrArg (fun c => c.tables) hc) h
    exact ⟨next, hnext, (congrArg contentsOf hdatabase).trans (contentsOf_topped hc next)⟩
  headings {_ _ text _ _ _ _ _} _ h hnames :=
    (congrArg (Assoc.get? text) (headings_execute h)).symm.trans hnames
  recent {_ _ text _ _ _ _} _ h _ :=
    ⟨trivial, congrArg (Assoc.get? text) (headings_execute h)⟩

/-! Texts that are read as queries. -/

variable {sql : String}

theorem run?_of_reads (h : Reads sql) (a : Session) :
    (a.run? sql [] = none) ∨ ∃ answer, a.run? sql [] = some (answer, a.database) := by
  cases htext : Command.ofText? sql with
  | none => exact .inl (by rw [run?, htext]; rfl)
  | some command =>
    obtain ⟨query, rfl⟩ := h command htext
    cases hquery : query.run? [] a.database with
    | none => exact .inl (by simp [run?, htext, Command.run?, hquery])
    | some answer => exact .inr ⟨answer, by simp [run?, htext, Command.run?, hquery]⟩

theorem selects_of_reads (h : Reads sql) : Selects connection sight sql where
  contents_prepare a := by
    simp only [connection]
    cases a.headingsFor? sql <;> rfl
  contents_fetch a := by
    rcases run?_of_reads h a with hrun | ⟨answer, hrun⟩ <;> simp only [connection, hrun]
  fetch_congr {a b} hcontents := by
    simp only [connection, run?_congr (contentsOf_injective hcontents)]
    cases b.run? sql [] <;> rfl
  prepare_congr {a b} hcontents ha hb := by
    have hsame : a.headingsFor? sql = b.headingsFor? sql := by
      rw [headingsFor?, headingsFor?, show Assoc.get? sql a.headings = none from ha,
        show Assoc.get? sql b.headings = none from hb, run?_congr (contentsOf_injective hcontents)]
    simp only [connection, hsame]
    cases b.headingsFor? sql <;> rfl
  prepare_known {a names} hnames := by
    have hfor : a.headingsFor? sql = some names := by
      rw [headingsFor?, show Assoc.get? sql a.headings = some names from hnames]
      rfl
    simp only [connection, hfor]
  headings_prepare a := by
    simp only [connection]
    cases hfor : a.headingsFor? sql with
    | none => exact (Option.or_eq_none_iff.1 hfor).1
    | some names => exact (Assoc.get?_put sql sql names a.headings).trans (if_pos rfl)
  recent_prepare _ _ := trivial
  recent_fetch {_ a} _ := by
    refine ⟨trivial, ?_⟩
    rcases run?_of_reads h a with hrun | ⟨answer, hrun⟩ <;>
      simp only [connection, hrun]

end FluentQuery.Sql.Session
