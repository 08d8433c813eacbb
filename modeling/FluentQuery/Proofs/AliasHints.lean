import FluentQuery.Plan.Hints
import FluentQuery.Proofs.RedirectedPlan
import Mathlib.Data.List.Forall2
import Mathlib.Data.List.Zip

/-!
What the hints of a plan are about. Main statement: their aliases are those that the statement of
the plan binds to its tables, each once and in the order in which they first occur, and the columns
of an alias are those of the last table under it.
-/
namespace FluentQuery

def named? (aliasName : String) : Option String := if aliasName = "" then none else some aliasName

theorem filterMap_named? (names : List String) :
    names.filterMap named? = names.filter fun name => !name.isEmpty := by
  rw [← List.filterMap_eq_filter]
  refine congrArg (List.filterMap · names) (funext fun name => ?_)
  by_cases h : name = "" <;> simp [named?, Option.guard, h]

/-- A table in a statement: the word in front of it, its text, the alias that is bound to it, if
any, and the rest of its clause. -/
structure Mention where
  word : String
  table : String
  bound : Option String
  rest : String
deriving DecidableEq, Repr

def Mention.text (mention : Mention) : String :=
  mention.word ++ " " ++ mention.table ++
    (match mention.bound with
      | some name => " AS " ++ name
      | none => "") ++ mention.rest

theorem text_named? (word table aliasName rest : String) :
    Mention.text ⟨word, table, named? aliasName, rest⟩ =
      word ++ " " ++ (table ++ (aliasPart aliasName ++ rest)) := by
  by_cases h : aliasName = "" <;> simp [← String.toList_inj, Mention.text, named?, aliasPart, h]

inductive JoinClause.TargetColumns (shelf : Shelf) (clause : JoinClause) : ColumnHint → Prop
  | reader {handle : Handle} {types : Schema} (hhandle : clause.target.handle? = some handle)
      (hschema : shelf.schema handle = .ok types) (hne : types ≠ []) :
      TargetColumns shelf clause (.typed types)
  | other (h : ∀ handle types, clause.target.handle? = some handle →
      shelf.schema handle = .ok types → types = []) : TargetColumns shelf clause (.names ["*"])

theorem JoinClause.targetColumns_joinHint (shelf : Shelf) (clause : JoinClause) :
    clause.TargetColumns shelf (Plan.joinHint shelf clause) := by
  unfold Plan.joinHint
  split
  · next entry types h =>
    obtain ⟨handle, hhandle, hschema⟩ := Option.map_eq_some_iff.1 h
    exact .reader hhandle hschema (List.cons_ne_nil _ _)
  · next h =>
    refine .other fun handle types hhandle hschema => ?_
    cases types with
    | nil => rfl
    | cons entry types => exact absurd (by rw [hhandle, Option.map_some, hschema]) (h entry types)

namespace Plan

inductive SourceColumns (plan : Plan) (shelf : Shelf) : ColumnHint → Prop
  | noted {types : Schema} (h : plan.columnTypes = some types) :
      SourceColumns plan shelf (.typed types)
  | reader {handle : Handle} {types : Schema} (hnone : plan.columnTypes = none)
      (hhandle : plan.source.handle? = some handle) (hschema : shelf.schema handle = .ok types) :
      SourceColumns plan shelf (.typed types)
  | unreadable {handle : Handle} {e : Error} (hnone : plan.columnTypes = none)
      (hhandle : plan.source.handle? = some handle) (hschema : shelf.schema handle = .error e) :
      SourceColumns plan shelf (.names ["*"])
  | selected (hnone : plan.columnTypes = none) (hhandle : plan.source.handle? = none)
      (hfields : plan.fields ≠ []) : SourceColumns plan shelf (.names plan.fields)
  | all (hnone : plan.columnTypes = none) (hhandle : plan.source.handle? = none)
      (hfields : plan.fields = []) : SourceColumns plan shelf (.names ["*"])

theorem sourceColumns_sourceHint (plan : Plan) (shelf : Shelf) :
    plan.SourceColumns shelf (plan.sourceHint shelf) := by
  unfold sourceHint
  split
  · next types handle? htypes => exact .noted htypes
  · next handle hnone hhandle =>
    split
    · next types hschema => exact .reader hnone hhandle hschema
    · next e hschema => exact .unreadable hnone hhandle hschema
  · next hnone hhandle =>
    split
    · next hfields => exact .all hnone hhandle (by simpa using hfields)
    · next hfields => exact .selected hnone hhandle (by simpa using hfields)

/-- The entries of a plan: one for the source, then one for each join, each under its alias. An
empty alias has none. -/
def Describes (plan : Plan) (shelf : Shelf) (entries : Hints) : Prop :=
  ∃ source joins, plan.SourceColumns shelf source ∧
    List.Forall₂ (JoinClause.TargetColumns shelf) plan.joins joins ∧
    entries = ((plan.aliasName, source) :: (plan.joins.map JoinClause.aliasName).zip joins).filter
      fun entry => !entry.1.isEmpty

def mentions (plan : Plan) : List Mention :=
  ⟨"FROM", plan.source.sql, named? plan.aliasName, ""⟩ :: plan.joins.map fun clause =>
    ⟨"JOIN", clause.target.sql, named? clause.aliasName,
      " ON " ++ clause.conditionText plan.aliasName⟩

theorem clauses_eq_mentions (plan : Plan) :
    plan.clauses =
      plan.openingClauses ++ (plan.mentions.map Mention.text ++ plan.closingClauses) := by
  have hsource : Mention.text ⟨"FROM", plan.source.sql, named? plan.aliasName, ""⟩ =
      "FROM " ++ aliased plan.source.sql plan.aliasName := by
    rw [text_named?, aliased_eq, String.append_empty]
    rfl
  have hjoins : ∀ clause ∈ plan.joins, Mention.text ⟨"JOIN", clause.target.sql,
      named? clause.aliasName, " ON " ++ clause.conditionText plan.aliasName⟩ =
        clause.sql plan.aliasName := by
    intro clause _
    rw [text_named?, JoinClause.sql_eq, show "JOIN" ++ " " = "JOIN " from rfl]
    simp only [String.append_assoc]
  rw [clauses_eq, mentions, List.map_cons, hsource, List.map_map, List.cons_append]
  congr 3
  exact List.map_congr_left fun clause hclause => (hjoins clause hclause).symm

theorem filterMap_bound_mentions (plan : Plan) :
    plan.mentions.filterMap Mention.bound =
      (plan.aliasName :: plan.joins.map JoinClause.aliasName).filter fun name => !name.isEmpty := by
  rw [← filterMap_named?, mentions]
  simp [List.filterMap_cons, List.filterMap_map]

theorem exists_describes (plan : Plan) (shelf : Shelf) :
    ∃ entries, plan.Describes shelf entries ∧ plan.hints shelf = Assoc.ofPairs entries ∧
      Assoc.keys entries = plan.mentions.filterMap Mention.bound := by
  refine ⟨_, ⟨plan.sourceHint shelf, plan.joins.map (joinHint shelf),
    plan.sourceColumns_sourceHint shelf, ?_, rfl⟩, ?_, ?_⟩
  · rw [List.forall₂_map_right_iff, List.forall₂_same]
    exact fun clause _ => clause.targetColumns_joinHint shelf
  · rw [hints, List.zip_map']
  · have hnames : plan.aliasName :: plan.joins.map JoinClause.aliasName =
        ((plan.aliasName, plan.sourceHint shelf) :: plan.joins.map fun clause =>
          (clause.aliasName, joinHint shelf clause)).map Prod.fst := by
      simp
    rw [filterMap_bound_mentions, hnames, List.filter_map, List.zip_map']
    rfl

/-- The hints of a plan and its statement, which has its tables between the clauses that select and
those that restrict. -/
theorem hints_last_use (plan : Plan) (shelf : Shelf) (hraw : plan.raw = none) :
    plan.sql = " ".intercalate
      (plan.openingClauses ++ (plan.mentions.map Mention.text ++ plan.closingClauses)) ∧
    plan.mentions.map Mention.table = plan.tables.map Table.sql ∧
    (Assoc.keys (plan.hints shelf)).Nodup ∧
    Assoc.keys (plan.hints shelf) = (plan.mentions.filterMap Mention.bound).eraseDups ∧
    ∃ entries, plan.Describes shelf entries ∧ ∀ name columns,
      Assoc.get? name (plan.hints shelf) = some columns ↔
        ∃ before after, entries = before ++ (name, columns) :: after ∧
          name ∉ Assoc.keys after := by
  obtain ⟨entries, hentries, hhints, hkeys⟩ := plan.exists_describes shelf
  refine ⟨?_, ?_, ?_, ?_, entries, hentries, fun name columns => ?_⟩
  · rw [sql, hraw, clauses_eq_mentions]
  · simp [mentions, tables, Function.comp_def]
  · rw [hhints]
    exact Assoc.nodup_keys_ofPairs entries
  · rw [hhints, Assoc.keys_ofPairs, hkeys]
  · rw [hhints]
    exact Assoc.get?_ofPairs_eq_some_iff

/-- A source whose reader has no columns, a join that takes its alias, and joins without an alias
and without a reader. -/
theorem hints_last_use_orders :
    let shelf := ((Shelf.empty.add (.feed "users" [] [])).2.add
      (.feed "orders" [("id", "Int64")] [])).2
    let plan : Plan := ⟨.reader (some ⟨0, "users"⟩), "u", ["name"], [],
      [⟨.raw "towns", "t", ⟨[("town", "id")]⟩⟩, ⟨.raw "notes", "", ⟨[("id", "note")]⟩⟩,
        ⟨.reader (some ⟨1, "orders"⟩), "u", ⟨[("id", "user_id")]⟩⟩], none, false, none, none⟩
    plan.raw = none ∧ plan.hints shelf = [("u", .typed [("id", "Int64")]), ("t", .names ["*"])] ∧
      Assoc.keys (plan.hints shelf) = (plan.mentions.filterMap Mention.bound).eraseDups ∧
      ∃ entries, plan.Describes shelf entries ∧ ∃ before after,
        entries = before ++ ("u", .typed [("id", "Int64")]) :: after ∧
          "u" ∉ Assoc.keys after := by
  intro shelf plan
  obtain ⟨-, -, -, hkeys, entries, hentries, hlast⟩ := hints_last_use plan shelf rfl
  exact ⟨rfl, by decide, hkeys, entries, hentries, (hlast _ _).1 (by decide)⟩

/-- A reader that broke off is not asked for its columns any more, and the selected fields do not
stand in for them. -/
theorem hints_of_poisoned :
    let handle : Handle := ⟨0, "users"⟩
    let shelf := (Shelf.empty.add (.feed "users" [("id", "Int64"), ("name", "String")] [])).2.poison
      handle
    let plan : Plan := ⟨.reader (some handle), "users", ["id"], [], [], none, false, none, none⟩
    plan.raw = none ∧ shelf.schema handle = .error (.poisoned "users") ∧
      plan.hints shelf = [("users", .names ["*"])] ∧
      plan.hints shelf ≠ [("users", .names plan.fields)] ∧
      plan.hints shelf ≠ [("users", .typed [("id", "Int64"), ("name", "String")])] := by
  decide

end Plan

end FluentQuery
