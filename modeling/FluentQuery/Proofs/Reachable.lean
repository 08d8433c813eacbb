import FluentQuery.Plan.Run
import FluentQuery.Proofs.Calls
import FluentQuery.Proofs.RedirectedPlan
import FluentQuery.Source.Basic

/-!
The plans that a caller can come by: those that are made from a table, from a statement, by a data
source or by an oracle, and what runs of builder calls make of them. Main statement: all of them
are well formed. So no plan with a raw statement can be joined, and the statement of every other
plan names a table after `FROM` and after each `JOIN` and has a condition after each `ON`.
-/
namespace FluentQuery

namespace Text

theorem blank_append (s t : String) : blank (s ++ t) = (blank s && blank t) := by
  simp [blank]

theorem blank_eq_false_of_mem {s : String} {c : Char} (h : c ∈ s.toList)
    (hc : isBlank c = false) : blank s = false :=
  List.all_eq_false.2 ⟨c, h, by simp [hc]⟩

end Text

namespace Table

theorem isEmpty_iff {table : Table} :
    table.isEmpty = true ↔ ∃ text, table = raw text ∧ Text.blank text = true := by
  cases table <;> simp [isEmpty]

theorem blank_sql (table : Table) : Text.blank table.sql = table.isEmpty := by
  have hlead : ∀ lead : String, '(' ∈ lead.toList → Text.blank lead = false :=
    fun _ hmem => Text.blank_eq_false_of_mem hmem (by decide)
  cases table with
  | raw => rfl
  | reader => exact hlead readerFunction (by simp [readerFunction])
  | remote t =>
    have hsql : Text.blank t.sql = false := by
      unfold RemoteTable.sql
      simp only [Text.blank_append, hlead "postgresql(" (by simp), Bool.false_and]
    exact hsql
  | file t =>
    simp only [sql, FileTable.sql, Text.blank_append, hlead "file(" (by simp),
      Bool.false_and, isEmpty]

end Table

/-- A join that says what it joins, and on at least one left key, none of them twice. -/
structure JoinClause.WellFormed (clause : JoinClause) : Prop where
  target : ¬ ∃ text, clause.target = .raw text ∧ Text.blank text = true
  conditions : clause.conditions.pairs ≠ []
  keys : (Assoc.keys clause.conditions.pairs).Nodup

namespace Plan

/-- A plan whose parts fit together. -/
structure WellFormed (plan : Plan) : Prop where
  raw : plan.raw.isSome = true ↔ ∃ text, plan.source = .raw text ∧ Text.blank text = true
  joins : ∀ clause ∈ plan.joins, clause.WellFormed
  fields : ∀ field ∈ plan.fields, field ≠ "" ∧ Text.IsTrimmed field.toList

/-- The plans that a caller can come by. A call may join any plan at all, and the plan that an
oracle is asked about may be any. -/
inductive Reachable : Plan → Prop
  | ofSource {source : Table} {plan : Plan} (made : Plan.ofSource source = .ok plan) :
      Reachable plan
  | withAlias {source : Table} {aliasName : String} {plan : Plan}
      (made : Plan.withAlias source aliasName = .ok plan) : Reachable plan
  | ofSql (sql : String) : Reachable (Plan.ofSql sql)
  | table {source : Source} {name : String} {shelf shelf' : Shelf} {plan : Plan}
      (made : source.plan name shelf = .ok (plan, shelf')) : Reachable plan
  | collection {source : Source} {name : String} {shelf shelf' : Shelf} {plan : Plan}
      (made : source.collection name shelf = .ok (plan, shelf')) : Reachable plan
  | answer {asked plan : Plan} {oracle : Oracle.Request → Except Error String} {shelf : Shelf}
      {question : String} {cache : Bool}
      (made : asked.ask oracle shelf question cache = .ok plan) : Reachable plan
  | after {plan : Plan} (start : Reachable plan) (calls : List Call) :
      Reachable (plan.after calls)

theorem wellFormed_withAlias {source : Table} {aliasName : String} {plan : Plan}
    (h : withAlias source aliasName = .ok plan) : plan.WellFormed := by
  unfold withAlias at h
  split at h
  · cases h
  · next hne =>
    cases h
    exact ⟨by simpa using fun text hs hb => hne (Table.isEmpty_iff.2 ⟨text, hs, hb⟩), by simp,
      by simp⟩

theorem wellFormed_ofSql (sql : String) : (ofSql sql).WellFormed :=
  ⟨⟨fun _ => ⟨"", rfl, rfl⟩, fun _ => rfl⟩, by simp [ofSql], by simp [ofSql]⟩

theorem WellFormed.withColumnTypes {plan : Plan} (h : plan.WellFormed) (types : Schema) :
    (plan.withColumnTypes types).WellFormed := ⟨h.raw, h.joins, h.fields⟩

theorem wellFormed_sourcePlan {source : Source} {name : String} {shelf shelf' : Shelf}
    {plan : Plan} (h : source.plan name shelf = .ok (plan, shelf')) : plan.WellFormed := by
  unfold Source.plan at h
  simp only [bind, Except.bind, pure, Except.pure] at h
  split at h
  · cases h
  · next made _ =>
    split at h
    · cases h
    · next hmade =>
      have hplan := wellFormed_withAlias hmade
      split at h
      · split at h
        · cases h
        · cases h
          exact hplan.withColumnTypes _
      · cases h
        exact hplan

theorem wellFormed_collection {source : Source} {name : String} {shelf shelf' : Shelf}
    {plan : Plan} (h : source.collection name shelf = .ok (plan, shelf')) : plan.WellFormed := by
  unfold Source.collection at h
  split at h
  · exact wellFormed_sourcePlan h
  · cases h

theorem wellFormed_answer {asked plan : Plan} {oracle : Oracle.Request → Except Error String}
    {shelf : Shelf} {question : String} {cache : Bool}
    (h : asked.ask oracle shelf question cache = .ok plan) : plan.WellFormed := by
  unfold ask at h
  cases hanswer : oracle (asked.request shelf question cache) with
  | error e => simp [hanswer, Except.map] at h
  | ok sql =>
    rw [hanswer] at h
    cases h
    exact wellFormed_ofSql sql

theorem isTrimmed_of_mem_fields {field : String} {selection : Selection}
    (h : field ∈ selection.fields) : field ≠ "" ∧ Text.IsTrimmed field.toList := by
  cases selection with
  | text s => exact ⟨FieldList.ne_empty_of_mem_ofList h, FieldList.isTrimmed_of_mem_ofList h⟩
  | list entries => exact ⟨FieldList.ne_empty_of_mem_ofList h, FieldList.isTrimmed_of_mem_ofList h⟩

theorem joinUnder_eq_ok {plan next : Plan} {target : JoinTarget} {pairs : List (String × String)}
    {aliasName : String} (h : plan.joinUnder target (.ofList pairs) aliasName = .ok next) :
    ∃ clause : JoinClause, clause.WellFormed ∧
      next = { plan with joins := plan.joins ++ [clause] } := by
  unfold joinUnder at h
  split at h
  · cases h
  · next hconditions =>
    split at h
    · cases h
    · next htarget =>
      cases h
      refine ⟨_, ⟨fun hb => htarget (Table.isEmpty_iff.2 hb), ?_, Assoc.nodup_keys_ofPairs pairs⟩,
        rfl⟩
      simpa [JoinKeys.isEmpty] using hconditions

theorem WellFormed.join {plan : Plan} (h : plan.WellFormed) {clause : JoinClause}
    (hc : clause.WellFormed) : { plan with joins := plan.joins ++ [clause] : Plan }.WellFormed := by
  refine ⟨h.raw, fun other ho => ?_, h.fields⟩
  rcases List.mem_append.1 ho with ho | ho
  · exact h.joins other ho
  · rwa [List.mem_singleton.1 ho]

theorem WellFormed.call {plan next : Plan} (h : plan.WellFormed) {c : Call}
    (hc : plan.call c = .ok next) : next.WellFormed := by
  cases c with
  | select selection =>
    cases hc
    exact ⟨h.raw, h.joins, fun _ hf => isTrimmed_of_mem_fields hf⟩
  | join joined pairs =>
    obtain ⟨clause, hclause, rfl⟩ := joinUnder_eq_ok hc
    exact h.join hclause
  | joinAs joined pairs aliasName =>
    obtain ⟨clause, hclause, rfl⟩ := joinUnder_eq_ok hc
    exact h.join hclause
  | _ =>
    cases hc
    exact ⟨h.raw, h.joins, h.fields⟩

theorem WellFormed.after {plan : Plan} (h : plan.WellFormed) (calls : List Call) :
    (plan.after calls).WellFormed := by
  induction calls generalizing plan with
  | nil => exact h
  | cons c calls ih =>
    unfold Plan.after
    split
    · next hc => exact ih (h.call hc)
    · exact ih h

theorem Reachable.wellFormed {plan : Plan} (h : plan.Reachable) : plan.WellFormed := by
  induction h with
  | ofSource made => exact wellFormed_withAlias made
  | withAlias made => exact wellFormed_withAlias made
  | ofSql sql => exact wellFormed_ofSql sql
  | table made => exact wellFormed_sourcePlan made
  | collection made => exact wellFormed_collection made
  | answer made => exact wellFormed_answer made
  | after _ calls ih => exact ih.after calls

/-- A plan without a source cannot be joined to any plan, under whatever alias and conditions. -/
theorem joinUnder_of_isEmpty {joined : Plan} (h : joined.source.isEmpty = true) (plan : Plan)
    (conditions : JoinKeys) (aliasName : String) :
    ∃ e, plan.joinUnder (.ofPlan joined) conditions aliasName = .error e ∧
      e.kind = .validation := by
  unfold joinUnder
  split
  · exact ⟨_, rfl, rfl⟩
  · rw [if_pos (show (JoinTarget.ofPlan joined).source.isEmpty = true from h)]
    exact ⟨_, rfl, rfl⟩

/-- Nothing that stands after `FROM`, `JOIN` or `ON` in the statement of the plan is blank. -/
structure Filled (plan : Plan) : Prop where
  source : Text.blank plan.source.sql = false
  targets : ∀ clause ∈ plan.joins, Text.blank clause.target.sql = false
  conditions : ∀ clause ∈ plan.joins,
    Text.blank (clause.conditionText plan.aliasName) = false

theorem blank_conditionText {clause : JoinClause} (h : clause.WellFormed) (planAlias : String) :
    Text.blank (clause.conditionText planAlias) = false := by
  obtain ⟨pair, rest, hp⟩ := List.exists_cons_of_ne_nil h.conditions
  have hequal : '=' ∈ (clause.conditionText planAlias).toList := by
    rw [JoinClause.conditionText, hp, String.toList_intercalate]
    cases rest <;> simp [List.intercalate]
  exact Text.blank_eq_false_of_mem hequal rfl

theorem WellFormed.filled {plan : Plan} (h : plan.WellFormed) (hraw : plan.raw = none) :
    plan.Filled := by
  refine ⟨?_, fun clause hc => ?_, fun clause hc => blank_conditionText (h.joins clause hc) _⟩
  · rw [Table.blank_sql, Bool.eq_false_iff]
    intro he
    have hsome := h.raw.2 (Table.isEmpty_iff.1 he)
    rw [hraw] at hsome
    cases hsome
  · rw [Table.blank_sql, Bool.eq_false_iff]
    exact fun he => (h.joins clause hc).target (Table.isEmpty_iff.1 he)

theorem sql_eq_clauses {plan : Plan} (hraw : plan.raw = none) :
    plan.sql = " ".intercalate (plan.openingClauses ++
      ("FROM " ++ aliased plan.source.sql plan.aliasName) ::
        (plan.joins.map (fun clause => "JOIN " ++ aliased clause.target.sql clause.aliasName ++
          " ON " ++ clause.conditionText plan.aliasName) ++ plan.closingClauses)) := by
  rw [sql, hraw]
  exact congrArg (" ".intercalate ·) (clauses_eq plan)

/-- Every plan that can be come by is well formed. One with a raw statement is refused as a join
target of any plan; in the statement of every other one, which has this form, something stands
after `FROM`, after each `JOIN` and after each `ON`. -/
theorem wellFormed_of_reachable {plan : Plan} (h : plan.Reachable) :
    plan.WellFormed ∧
      (plan.raw.isSome = true → ∀ (other : Plan) (pairs : List (String × String)),
        (∃ e, other.call (.join (.plan plan) pairs) = .error e ∧ e.kind = .validation) ∧
        ∀ aliasName : String, ∃ e,
          other.call (.joinAs (.plan plan) pairs aliasName) = .error e ∧ e.kind = .validation) ∧
      (plan.raw = none → plan.Filled ∧
        plan.sql = " ".intercalate (plan.openingClauses ++
          ("FROM " ++ aliased plan.source.sql plan.aliasName) ::
            (plan.joins.map (fun clause => "JOIN " ++ aliased clause.target.sql clause.aliasName ++
              " ON " ++ clause.conditionText plan.aliasName) ++ plan.closingClauses))) := by
  have hwell := h.wellFormed
  refine ⟨hwell, fun hraw other pairs => ?_, fun hraw => ⟨hwell.filled hraw, sql_eq_clauses hraw⟩⟩
  have hempty : plan.source.isEmpty = true := Table.isEmpty_iff.2 (hwell.raw.1 hraw)
  exact ⟨joinUnder_of_isEmpty hempty other _ _,
    fun aliasName => joinUnder_of_isEmpty hempty other _ aliasName⟩

/-- The plan over a fetched collection, after a run in which a plan with a raw statement is refused
as a join target and a left key is given twice. -/
theorem wellFormed_of_reachable_comments :
    let records : List Record := [[("id", .int ⟨1, by decide⟩)]]
    let source : Source := .api ⟨"http://localhost", none, []⟩ (some fun _ _ => .ok records)
    let calls : List Call := [.select (.text " id, ,note "),
      .join (.plan (ofSql "SELECT 1")) [("id", "id")],
      .joinAs (.table (.raw "users")) [("id", "user"), ("id", "author")] "u"]
    let plan : Plan := ⟨.reader (some ⟨0, "comments"⟩), "comments", ["id", "note"], [],
      [⟨.raw "users", "u", ⟨[("id", "author")]⟩⟩], none, false, some [("id", "Int64")], none⟩
    ∃ start shelf, source.collection "comments" .empty = .ok (start, shelf) ∧
      start.after calls = plan ∧ plan.Reachable ∧ plan.WellFormed ∧ plan.Filled := by
  intro records source calls plan
  let start : Plan := ⟨.reader (some ⟨0, "comments"⟩), "comments", [], [], [], none, false,
    some [("id", "Int64")], none⟩
  have hmade : source.collection "comments" .empty =
      .ok (start, (Shelf.empty.add (.memory (Memory.ofRecords "comments" records))).2) := rfl
  have hafter : start.after calls = plan := by decide
  have h : plan.Reachable := hafter ▸ (Reachable.collection hmade).after calls
  obtain ⟨hwell, -, hfilled⟩ := wellFormed_of_reachable h
  exact ⟨start, _, hmade, hafter, h, hwell, (hfilled rfl).1⟩

end Plan

end FluentQuery
