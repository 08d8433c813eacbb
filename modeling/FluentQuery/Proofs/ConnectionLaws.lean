import FluentQuery.Embedded.Executor
import FluentQuery.Proofs.TopTable

/-!
What the executor relies on in the database behind its connection: how `DROP`, `CREATE TEMP TABLE`
and `INSERT` treat the one table that the executor makes, that a query changes nothing, and that a
prepared text keeps its headings. Main statements: texts that fare well once fare well again where
the contents are the same, and so does a query, whatever became known of headings meanwhile.
-/
namespace FluentQuery

open Sql Embedded

/-- What a database holds, apart from attached ones and from what it keeps for itself. -/
structure Contents (ρ : Type) where
  tables : Database
  /-- a view is called like the table for a reader -/
  viewed : Bool
  /-- a temporary view or a temporary index has that name -/
  occupied : Bool
  /-- a foreign key refers to a table that is called like the table for a reader -/
  referenced : Bool
  /-- an index, a trigger or a counter of keys belongs to a table of that name -/
  encumbered : Bool
  /-- whatever else decides how a text fares -/
  rest : ρ

/-- What can be seen of the states of a connection. -/
structure Sight (σ ρ : Type) where
  contents : σ → Contents ρ
  /-- the headings that are kept for a text which has any -/
  headings : σ → String → Option (List String)
  /-- the text was prepared so lately that its headings outlast the texts about a reader with these
  columns -/
  recent : Schema → σ → String → Prop

namespace Contents

variable {ρ : Type} {c : Contents ρ} {table : StoredTable}

def topped (c : Contents ρ) (table : StoredTable) : Contents ρ :=
  { c with tables := c.tables.topped table }

/-- A permanent table is called like the table for a reader. -/
def Owned (c : Contents ρ) : Prop :=
  Database.tableAmong? readerTable c.tables.permanent ≠ none

/-- No foreign key refers to the table for a reader, and a temporary table of its name lies over
nothing. -/
structure Clear (c : Contents ρ) : Prop where
  unreferenced : c.referenced = false
  bare : ¬ c.tables.Lacks readerTable → ¬ c.Owned ∧ c.viewed = false

structure Free (c : Contents ρ) : Prop where
  unreferenced : c.referenced = false
  lacks : c.tables.Lacks readerTable
  unowned : ¬ c.Owned
  unviewed : c.viewed = false
  unencumbered : c.encumbered = false

theorem Free.clear (h : c.Free) : c.Clear := ⟨h.unreferenced, fun hl => absurd h.lacks hl⟩

theorem not_lacks_topped (hl : c.tables.Lacks readerTable) (ht : table.name = readerTable) :
    ¬ (c.topped table).tables.Lacks readerTable := by
  have hsame : sameName table.name readerTable = true := by simp [ht, sameName]
  exact Option.isSome_iff_ne_none.1 (Database.isSome_tableAmong?_topped hl hsame)

end Contents

/-- No name of a column ends the quotes around it. -/
def Unquoted (schema : Schema) : Prop := ∀ column ∈ schema, '"' ∉ column.1.toList

instance (schema : Schema) : Decidable (Unquoted schema) :=
  inferInstanceAs (Decidable (∀ column ∈ schema, '"' ∉ column.1.toList))

/-- The texts of an executor about the table for a reader with these columns. -/
inductive Own (schema : Schema) : String → Prop
  | removal : Own schema removalSql
  | creation : Own schema (creationSql schema)
  | insertion : Own schema (insertionSql (Assoc.keys schema))

section Laws

variable {σ ρ : Type}

/-- How a database takes the texts about the table for a reader. A refused command changes nothing;
`DROP` takes the temporary table of the name before the permanent one and never a view; what belongs
to the table goes with it, and rows of other tables only over foreign keys; new tables and rows come
last. -/
structure Laws (connection : Connection σ) (sight : Sight σ ρ) : Prop where
  congr {schema : Schema} {sql : String} {parameters : List Cell} {a b a' : σ} {accepted : Bool}
    (hquotes : Unquoted schema) (hown : Own schema sql)
    (hcontents : sight.contents a = sight.contents b)
    (h : connection.execute sql parameters a = (accepted, a')) :
    ∃ b', connection.execute sql parameters b = (accepted, b') ∧
      sight.contents b' = sight.contents a'
  refused {schema : Schema} {sql : String} {parameters : List Cell} {a a' : σ}
    (hquotes : Unquoted schema) (hown : Own schema sql)
    (h : connection.execute sql parameters a = (false, a')) :
    sight.contents a' = sight.contents a
  removed_lacks {a a' : σ} (h : connection.execute removalSql [] a = (true, a')) :
    (sight.contents a').tables.Lacks readerTable
  removed_hidden {a a' : σ} (hl : ¬ (sight.contents a).tables.Lacks readerTable)
    (h : connection.execute removalSql [] a = (true, a')) :
    (sight.contents a').tables.permanent = (sight.contents a).tables.permanent
  removed_owned {a a' : σ} (hl : (sight.contents a).tables.Lacks readerTable)
    (h : connection.execute removalSql [] a = (true, a')) : ¬ (sight.contents a').Owned
  removed_nothing {a a' : σ} (hl : (sight.contents a).tables.Lacks readerTable)
    (ho : ¬ (sight.contents a).Owned) (h : connection.execute removalSql [] a = (true, a')) :
    sight.contents a' = sight.contents a
  removed_tables {a a' : σ} (hr : (sight.contents a).referenced = false)
    (h : connection.execute removalSql [] a = (true, a')) :
    (sight.contents a').tables = (sight.contents a).tables.drop readerTable
  removed_names {a a' : σ} (hr : (sight.contents a).referenced = false)
    (h : connection.execute removalSql [] a = (true, a')) :
    (sight.contents a').referenced = false ∧
      (sight.contents a').occupied = (sight.contents a).occupied ∧
      (sight.contents a').viewed = (sight.contents a).viewed
  removed_top {a a' : σ} {c : Contents ρ} {table : StoredTable} (hf : c.Free)
    (ht : table.name = readerTable) (hc : sight.contents a = c.topped table)
    (h : connection.execute removalSql [] a = (true, a')) : sight.contents a' = c
  unencumbered {a : σ} (hl : (sight.contents a).tables.Lacks readerTable)
    (ho : ¬ (sight.contents a).Owned) (hv : (sight.contents a).viewed = false) :
    (sight.contents a).encumbered = false
  removal_of_view {a a' : σ} {accepted : Bool} (hl : (sight.contents a).tables.Lacks readerTable)
    (hv : (sight.contents a).viewed = true)
    (h : connection.execute removalSql [] a = (accepted, a')) : accepted = false
  removal_of_nothing {a a' : σ} {accepted : Bool} (hf : (sight.contents a).Free)
    (h : connection.execute removalSql [] a = (accepted, a')) : accepted = true
  removal_of_top {a a' : σ} {accepted : Bool} (hr : (sight.contents a).referenced = false)
    (hl : ¬ (sight.contents a).tables.Lacks readerTable)
    (h : connection.execute removalSql [] a = (accepted, a')) : accepted = true
  created {schema : Schema} {a a' : σ} (hquotes : Unquoted schema)
    (hl : (sight.contents a).tables.Lacks readerTable)
    (h : connection.execute (creationSql schema) [] a = (true, a')) :
    ∃ table, table.name = readerTable ∧ sight.contents a' = (sight.contents a).topped table
  inserted {schema : Schema} {row : List Cell} {a a' : σ} {c : Contents ρ} {table : StoredTable}
    (hquotes : Unquoted schema) (hl : c.tables.Lacks readerTable) (ht : table.name = readerTable)
    (hc : sight.contents a = c.topped table)
    (h : connection.execute (insertionSql (Assoc.keys schema)) row a = (true, a')) :
    ∃ next, next.name = readerTable ∧ sight.contents a' = c.topped next
  headings {schema : Schema} {sql text : String} {parameters : List Cell} {a a' : σ}
    {accepted : Bool} {names : List String} (hown : Own schema sql)
    (h : connection.execute sql parameters a = (accepted, a'))
    (hnames : sight.headings a' text = some names) : sight.headings a text = some names
  recent {schema : Schema} {sql text : String} {parameters : List Cell} {a a' : σ}
    {accepted : Bool} (hown : Own schema sql)
    (h : connection.execute sql parameters a = (accepted, a'))
    (hrecent : sight.recent schema a text) :
    sight.recent schema a' text ∧ sight.headings a' text = sight.headings a text

/-- The text only reads, and what it gives is decided by the contents of the database. Its headings
are those that are kept for it, if any are. -/
structure Selects (connection : Connection σ) (sight : Sight σ ρ) (sql : String) : Prop where
  contents_prepare (a : σ) : sight.contents (connection.prepare sql a).2 = sight.contents a
  contents_fetch (a : σ) : sight.contents (connection.fetch sql a).2 = sight.contents a
  fetch_congr {a b : σ} (h : sight.contents a = sight.contents b) :
    (connection.fetch sql a).1 = (connection.fetch sql b).1
  prepare_congr {a b : σ} (h : sight.contents a = sight.contents b)
    (ha : sight.headings a sql = none) (hb : sight.headings b sql = none) :
    (connection.prepare sql a).1 = (connection.prepare sql b).1
  prepare_known {a : σ} {names : List String} (h : sight.headings a sql = some names) :
    (connection.prepare sql a).1 = some names
  headings_prepare (a : σ) :
    sight.headings (connection.prepare sql a).2 sql = (connection.prepare sql a).1
  recent_prepare {a : σ} (schema : Schema) (h : (connection.prepare sql a).1.isSome = true) :
    sight.recent schema (connection.prepare sql a).2 sql
  recent_fetch {schema : Schema} {a : σ} (h : sight.recent schema a sql) :
    sight.recent schema (connection.fetch sql a).2 sql ∧
      sight.headings (connection.fetch sql a).2 sql = sight.headings a sql

end Laws

section Texts

variable {σ ρ : Type} {connection : Connection σ} {sight : Sight σ ρ} {schema : Schema}

namespace Connection

theorem executeAll_cons_of_refused {sql : String} {parameters : List Cell} {a a' : σ}
    (h : connection.execute sql parameters a = (false, a')) (texts : List (String × List Cell)) :
    connection.executeAll ((sql, parameters) :: texts) a = (false, a') := by
  simp only [executeAll, h]

theorem executeAll_cons_of_accepted {sql : String} {parameters : List Cell} {a a' : σ}
    (h : connection.execute sql parameters a = (true, a')) (texts : List (String × List Cell)) :
    connection.executeAll ((sql, parameters) :: texts) a = connection.executeAll texts a' := by
  simp only [executeAll, h]

theorem executeAll_append (first last : List (String × List Cell)) (a : σ) :
    connection.executeAll (first ++ last) a = match connection.executeAll first a with
      | (true, a') => connection.executeAll last a'
      | (false, a') => (false, a') := by
  induction first generalizing a with
  | nil => rfl
  | cons text first ih =>
    cases h : connection.execute text.1 text.2 a with
    | mk accepted a' =>
      cases accepted with
      | false =>
        rw [List.cons_append, executeAll_cons_of_refused h, executeAll_cons_of_refused h]
      | true =>
        rw [List.cons_append, executeAll_cons_of_accepted h, executeAll_cons_of_accepted h, ih]

theorem executeAll_rel {r : σ → σ → Prop} (hrefl : ∀ a, r a a)
    (htrans : ∀ {a b c}, r a b → r b c → r a c) {texts : List (String × List Cell)}
    (hstep : ∀ text ∈ texts, ∀ a accepted a',
      connection.execute text.1 text.2 a = (accepted, a') → r a a') {a a' : σ} {accepted : Bool}
    (h : connection.executeAll texts a = (accepted, a')) : r a a' := by
  induction texts generalizing a with
  | nil =>
    cases h
    exact hrefl _
  | cons text texts ih =>
    obtain ⟨hfirst, hrest⟩ := List.forall_mem_cons.1 hstep
    cases hrun : connection.execute text.1 text.2 a with
    | mk first next =>
      cases first with
      | false =>
        rw [executeAll_cons_of_refused hrun] at h
        cases h
        exact hfirst a _ _ hrun
      | true =>
        rw [executeAll_cons_of_accepted hrun] at h
        exact htrans (hfirst a _ _ hrun) (ih hrest h)

end Connection

def fillingTexts (schema : Schema) (rows : List (List Json)) : List (String × List Cell) :=
  (creationSql schema, []) :: insertions (Assoc.keys schema) rows

def loadingTexts (schema : Schema) (rows : List (List Json)) : List (String × List Cell) :=
  (removalSql, []) :: fillingTexts schema rows

theorem own_of_mem_fillingTexts {rows : List (List Json)} {text : String × List Cell}
    (h : text ∈ fillingTexts schema rows) : Own schema text.1 := by
  rcases List.mem_cons.1 h with rfl | h
  · exact .creation
  · obtain ⟨row, -, rfl⟩ := List.mem_map.1 h
    exact .insertion

theorem own_of_mem_loadingTexts {rows : List (List Json)} {text : String × List Cell}
    (h : text ∈ loadingTexts schema rows) : Own schema text.1 := by
  rcases List.mem_cons.1 h with rfl | h
  · exact .removal
  · exact own_of_mem_fillingTexts h

variable {texts : List (String × List Cell)}

theorem Laws.headings_executeAll (laws : Laws connection sight)
    (hown : ∀ text ∈ texts, Own schema text.1) {sql : String} {a a' : σ} {accepted : Bool}
    (h : connection.executeAll texts a = (accepted, a')) {names : List String}
    (hnames : sight.headings a' sql = some names) : sight.headings a sql = some names := by
  refine Connection.executeAll_rel (r := fun a a' => ∀ names, sight.headings a' sql = some names →
    sight.headings a sql = some names) (fun _ _ h => h) (fun h h' names hn => h names (h' names hn))
    (fun text ht _ _ _ hstep _ hn => laws.headings (hown text ht) hstep hn) h names hnames

namespace Connection

variable {sql : String}

theorem fst_perform (connection : Connection σ) (sql : String) (a : σ) :
    (connection.perform sql a).1 =
      match (connection.prepare sql a).1,
          (connection.fetch sql (connection.prepare sql a).2).1 with
      | some headings, some rows => .ok ⟨headings, rows.map fun row => row.map Cell.toJson⟩
      | _, _ => .error .database := by
  rw [perform]
  cases connection.prepare sql a with
  | mk answer prepared =>
    cases answer with
    | none => rfl
    | some headings =>
      dsimp only
      cases connection.fetch sql prepared with
      | mk rows _ => cases rows <;> rfl

theorem snd_perform (connection : Connection σ) (sql : String) (a : σ) :
    (connection.perform sql a).2 =
      if (connection.prepare sql a).1.isSome then
        (connection.fetch sql (connection.prepare sql a).2).2
      else (connection.prepare sql a).2 := by
  rw [perform]
  cases connection.prepare sql a with
  | mk answer prepared =>
    cases answer with
    | none => rfl
    | some headings =>
      dsimp only [Option.isSome_some, if_true]
      cases connection.fetch sql prepared with
      | mk rows _ => cases rows <;> rfl

end Connection

namespace Selects

variable {sql : String}

theorem contents_perform (hsql : Selects connection sight sql) (a : σ) :
    sight.contents (connection.perform sql a).2 = sight.contents a := by
  rw [Connection.snd_perform]
  split
  · rw [hsql.contents_fetch, hsql.contents_prepare]
  · exact hsql.contents_prepare a

end Selects

end Texts

end FluentQuery
