import FluentQuery.Plan.Sql
import FluentQuery.Proofs.RedirectedParts
import FluentQuery.Proofs.ReaderName

/-!
The statement of a plan when its table functions of readers are replaced. Main statement: where no
other text of the plan names the function, the result is the statement of the same plan over the
table that holds the rows, and a plan without readers is left alone.
-/
namespace FluentQuery
open Embedded

namespace Table

def isReader : Table → Bool
  | reader _ => true
  | _ => false

def redirected : Table → Table
  | reader _ => raw readerTable
  | table => table

theorem exists_reader {table : Table} (h : table.isReader = true) :
    ∃ handle, table = reader handle := by
  cases table with
  | reader handle => exact ⟨handle, rfl⟩
  | _ => cases h

theorem redirected_of_not_isReader {table : Table} (h : table.isReader = false) :
    table.redirected = table := by
  cases table with
  | reader => cases h
  | _ => rfl

end Table

def JoinClause.redirected (clause : JoinClause) : JoinClause :=
  { clause with target := clause.target.redirected }

/-- The plan over the table that holds the rows, wherever it is over a reader. -/
def Plan.redirected (plan : Plan) : Plan :=
  { plan with
    source := plan.source.redirected
    joins := plan.joins.map JoinClause.redirected }

/-- No text of the plan names the table function of readers, save for the readers themselves. -/
structure Plan.Silent (plan : Plan) : Prop where
  aliasName : ¬ NamesReader plan.aliasName.toList
  fields : ∀ field ∈ plan.fields, ¬ NamesReader field.toList
  predicates : ∀ predicate ∈ plan.predicates, ¬ NamesReader predicate.toList
  joinAliases : ∀ clause ∈ plan.joins, ¬ NamesReader clause.aliasName.toList
  keys : ∀ clause ∈ plan.joins, ∀ pair ∈ clause.conditions.pairs,
    ¬ NamesReader pair.1.toList ∧ ¬ NamesReader pair.2.toList
  tables : ∀ table ∈ plan.tables, table.isReader = false → ¬ NamesReader table.sql.toList

def aliasPart (aliasName : String) : String :=
  if aliasName.isEmpty then "" else " AS " ++ aliasName

theorem aliased_eq (sql aliasName : String) :
    aliased sql aliasName = sql ++ aliasPart aliasName := by
  unfold aliased aliasPart
  split
  · rw [String.append_empty]
  · rw [String.append_assoc]

/-! Parts of statements that do not name the function. -/

theorem not_namesReader_qualified {field aliasName : String} (hf : ¬ NamesReader field.toList)
    (ha : ¬ NamesReader aliasName.toList) : ¬ NamesReader (qualified field aliasName).toList := by
  unfold qualified
  split
  · exact hf
  · simpa using separator_dot.not_namesReader ha hf

theorem not_namesReader_star {aliasName : String} (h : ¬ NamesReader aliasName.toList) :
    ¬ NamesReader (star aliasName).toList := by
  unfold star
  split
  · exact not_namesReader_of_length_lt (by decide)
  · simpa using separator_dot.not_namesReader h (not_namesReader_of_length_lt (by decide))

theorem not_namesReader_append_aliasPart {a : List Char} {aliasName : String}
    (ha : ¬ NamesReader a) (h : ¬ NamesReader aliasName.toList) :
    ¬ NamesReader (a ++ (aliasPart aliasName).toList) := by
  unfold aliasPart
  split
  · simpa using ha
  · simpa using separator_as.not_namesReader ha h

theorem not_namesReader_qualifiedKey {key aliasName : String} (hk : ¬ NamesReader key.toList)
    (ha : ¬ NamesReader aliasName.toList) :
    ¬ NamesReader (qualifiedKey key aliasName).toList := by
  rcases qualifiedKey_cases key aliasName with heq | ⟨table, field, rfl, heq⟩
  · rw [heq]
    exact not_namesReader_qualified hk ha
  · rw [heq]
    refine not_namesReader_qualified (fun h => hk (h.of_infix ?_)) fun h => hk (h.of_infix ?_)
    · exact ⟨(table ++ ".").toList, [], by simp⟩
    · exact ⟨[], '.' :: field.toList, by simp⟩

theorem not_namesReader_naturalText (n : Nat) : ¬ NamesReader (naturalText n).toList := by
  rw [naturalText, String.toList_ofList]
  intro h
  have hmem : '(' ∈ lowerAll (Nat.toDigits 10 n) := h.subset (by decide)
  obtain ⟨c, hc, hl⟩ := List.mem_map.1 hmem
  obtain rfl := eq_of_lower hl (by decide)
  exact not_mem_toDigits rfl n hc

def JoinClause.conditionText (clause : JoinClause) (planAlias : String) : String :=
  " AND ".intercalate (clause.conditions.pairs.map fun (left, right) =>
    qualifiedKey left planAlias ++ "=" ++ qualifiedKey right clause.aliasName)

theorem JoinClause.sql_eq (clause : JoinClause) (planAlias : String) :
    clause.sql planAlias = "JOIN " ++ (clause.target.sql ++
      (aliasPart clause.aliasName ++ " ON " ++ clause.conditionText planAlias)) := by
  rw [JoinClause.sql, aliased_eq, JoinClause.conditionText]
  simp only [String.append_assoc]

/-- After `FROM` or `JOIN` a reader becomes the table that holds the rows, and any other table
stays. -/
theorem redirected_table {word tail : List Char} (table : Table) (hw : ¬ NamesReader word)
    (hp : Position word [' '] Table.readerFunction.toList) (htail : ¬ NamesReader tail)
    (ht : table.isReader = false → ¬ NamesReader (table.sql.toList ++ tail)) :
    redirected (word ++ ' ' :: (table.sql.toList ++ tail)) =
      word ++ ' ' :: (table.redirected.sql.toList ++ tail) := by
  cases hr : table.isReader with
  | true =>
    obtain ⟨handle, rfl⟩ := Table.exists_reader hr
    have h := redirectedFrom_position hp (show Outside none from rfl) tail
    rw [redirectedFrom_of_not_namesReader htail] at h
    simpa [redirected_eq, Table.sql, Table.redirected] using h
  | false =>
    rw [Table.redirected_of_not_isReader hr, redirected_eq]
    refine redirectedFrom_of_not_namesReader ?_
    simpa using separator_blank.not_namesReader hw (ht hr)

namespace Plan

variable {plan : Plan}

theorem Silent.not_namesReader_selectList (h : plan.Silent) {item : String}
    (hi : item ∈ plan.selectList) : ¬ NamesReader item.toList := by
  rcases List.mem_append.1 hi with hi | hi
  · split at hi
    · rw [List.mem_singleton.1 hi]
      exact not_namesReader_star h.aliasName
    · obtain ⟨field, hf, rfl⟩ := List.mem_map.1 hi
      exact not_namesReader_qualified (h.fields field hf) h.aliasName
  · obtain ⟨clause, hc, rfl⟩ := List.mem_map.1 hi
    exact not_namesReader_star (h.joinAliases clause hc)

theorem Silent.not_namesReader_conditionText (h : plan.Silent) {clause : JoinClause}
    (hc : clause ∈ plan.joins) : ¬ NamesReader (clause.conditionText plan.aliasName).toList := by
  refine separator_and.not_namesReader_texts fun text ht => ?_
  obtain ⟨pair, hp, rfl⟩ := List.mem_map.1 ht
  obtain ⟨hl, hr⟩ := h.keys clause hc pair hp
  simpa using separator_equal.not_namesReader (not_namesReader_qualifiedKey hl h.aliasName)
    (not_namesReader_qualifiedKey hr (h.joinAliases clause hc))

theorem apart_of_mem_clauses {clause : String} (h : clause ∈ plan.clauses) :
    Apart clause.toList := by
  have hlead : ∀ {lead rest : String}, Apart lead.toList → clause = lead ++ rest →
      Apart clause.toList := by
    rintro lead rest hl rfl
    rw [String.toList_append]
    exact hl.append rest.toList
  simp only [clauses, List.mem_append] at h
  rcases h with ((((h | h) | h) | h) | h) | h
  · split at h
    · obtain rfl := List.mem_singleton.1 h
      exact ⟨_, _, rfl, by decide, by decide⟩
    · cases h
  · exact hlead ⟨_, _, rfl, by decide, by decide⟩ (List.mem_singleton.1 h)
  · exact hlead ⟨_, _, rfl, by decide, by decide⟩ (List.mem_singleton.1 h)
  · obtain ⟨join, -, rfl⟩ := List.mem_map.1 h
    exact hlead ⟨_, _, rfl, by decide, by decide⟩ (join.sql_eq plan.aliasName)
  · split at h
    · cases h
    · exact hlead ⟨_, _, rfl, by decide, by decide⟩ (List.mem_singleton.1 h)
  · split at h
    · exact hlead ⟨_, _, rfl, by decide, by decide⟩ (List.mem_singleton.1 h)
    · cases h

theorem toList_sql (h : plan.raw = none) :
    plan.sql.toList = [' '].intercalate (plan.clauses.map String.toList) := by
  simp [sql, h]

theorem redirected_sql (h : plan.raw = none) :
    Embedded.redirected plan.sql.toList =
      [' '].intercalate (plan.clauses.map fun clause => Embedded.redirected clause.toList) := by
  rw [toList_sql h, redirected_clauses, List.map_map]
  · rfl
  · intro clause hc
    obtain ⟨text, ht, rfl⟩ := List.mem_map.1 (List.mem_of_mem_tail hc)
    exact apart_of_mem_clauses ht

theorem Silent.redirected_source (h : plan.Silent) :
    Embedded.redirected ("FROM " ++ aliased plan.source.sql plan.aliasName).toList =
      ("FROM " ++ aliased plan.source.redirected.sql plan.aliasName).toList := by
  have hw : ¬ NamesReader "FROM".toList := not_namesReader_of_length_lt (by decide)
  have htail := not_namesReader_append_aliasPart not_namesReader_nil h.aliasName
  have hr := redirected_table plan.source hw position_from htail fun ht =>
    not_namesReader_append_aliasPart (h.tables _ List.mem_cons_self ht) h.aliasName
  simpa [aliased_eq] using hr

theorem Silent.redirected_join (h : plan.Silent) {clause : JoinClause} (hc : clause ∈ plan.joins) :
    Embedded.redirected (clause.sql plan.aliasName).toList =
      (clause.redirected.sql plan.aliasName).toList := by
  have hw : ¬ NamesReader "JOIN".toList := not_namesReader_of_length_lt (by decide)
  have hafter : ∀ {a : List Char}, ¬ NamesReader a → ¬ NamesReader (a ++
      (aliasPart clause.aliasName ++ " ON " ++ clause.conditionText plan.aliasName).toList) := by
    intro a ha
    have hpart := not_namesReader_append_aliasPart ha (h.joinAliases clause hc)
    simpa using separator_on.not_namesReader hpart (h.not_namesReader_conditionText hc)
  have htable : clause.target ∈ plan.tables := List.mem_cons_of_mem _ (List.mem_map_of_mem hc)
  have hr := redirected_table clause.target hw position_join (hafter not_namesReader_nil)
    fun ht => hafter (h.tables _ htable ht)
  rw [JoinClause.sql_eq, JoinClause.sql_eq]
  simpa [JoinClause.redirected, JoinClause.conditionText] using hr

theorem selectList_redirected (plan : Plan) : plan.redirected.selectList = plan.selectList := by
  simp [selectList, redirected, JoinClause.redirected, Function.comp_def]

def openingClauses (plan : Plan) : List String :=
  (if plan.explain then ["EXPLAIN"] else []) ++ ["SELECT " ++ ", ".intercalate plan.selectList]

def closingClauses (plan : Plan) : List String :=
  (if plan.predicates.isEmpty then []
    else ["WHERE " ++ " AND ".intercalate plan.predicates]) ++
  (match plan.limit with
    | some n => ["LIMIT " ++ naturalText n]
    | none => [])

theorem clauses_eq (plan : Plan) :
    plan.clauses = plan.openingClauses ++
      (("FROM " ++ aliased plan.source.sql plan.aliasName) ::
        (plan.joins.map (fun clause => clause.sql plan.aliasName) ++ plan.closingClauses)) := by
  simp only [clauses, openingClauses, List.append_assoc, List.singleton_append]
  rfl

theorem Silent.not_namesReader_openingClauses (h : plan.Silent) {clause : String}
    (hc : clause ∈ plan.openingClauses) : ¬ NamesReader clause.toList := by
  rw [openingClauses, List.mem_append] at hc
  rcases hc with hc | hc
  · split at hc
    · rw [List.mem_singleton.1 hc]
      exact not_namesReader_of_length_lt (by decide)
    · cases hc
  · have hlist := separator_comma.not_namesReader_texts fun _ hi => h.not_namesReader_selectList hi
    have hselect : ¬ NamesReader "SELECT".toList := not_namesReader_of_length_lt (by decide)
    rw [List.mem_singleton.1 hc]
    simpa using separator_blank.not_namesReader hselect hlist

theorem Silent.not_namesReader_closingClauses (h : plan.Silent) {clause : String}
    (hc : clause ∈ plan.closingClauses) : ¬ NamesReader clause.toList := by
  rw [closingClauses, List.mem_append] at hc
  rcases hc with hc | hc
  · split at hc
    · cases hc
    · have hlist := separator_and.not_namesReader_texts h.predicates
      have hwhere : ¬ NamesReader "WHERE".toList := not_namesReader_of_length_lt (by decide)
      rw [List.mem_singleton.1 hc]
      simpa using separator_blank.not_namesReader hwhere hlist
  · split at hc
    · next n _ =>
      have hlimit : ¬ NamesReader "LIMIT".toList := not_namesReader_of_length_lt (by decide)
      rw [List.mem_singleton.1 hc]
      simpa using separator_blank.not_namesReader hlimit (not_namesReader_naturalText n)
    · cases hc

theorem Silent.redirected_clauses (h : plan.Silent) :
    (plan.clauses.map fun clause => Embedded.redirected clause.toList) =
      plan.redirected.clauses.map String.toList := by
  have hopening : (plan.openingClauses.map fun clause => Embedded.redirected clause.toList) =
      plan.redirected.openingClauses.map String.toList := by
    rw [openingClauses, openingClauses, selectList_redirected]
    exact List.map_congr_left fun clause hc =>
      redirectedFrom_of_not_namesReader (h.not_namesReader_openingClauses hc)
  have hclosing : (plan.closingClauses.map fun clause => Embedded.redirected clause.toList) =
      plan.redirected.closingClauses.map String.toList :=
    List.map_congr_left fun clause hc =>
      redirectedFrom_of_not_namesReader (h.not_namesReader_closingClauses hc)
  have hjoins : ((plan.joins.map fun clause => clause.sql plan.aliasName).map
      fun clause => Embedded.redirected clause.toList) =
      (plan.redirected.joins.map fun clause => clause.sql plan.aliasName).map String.toList := by
    simp only [redirected, List.map_map]
    exact List.map_congr_left fun clause hc => h.redirected_join hc
  rw [clauses_eq, clauses_eq, List.map_append, List.map_append, List.map_cons, List.map_cons,
    List.map_append, List.map_append, hopening, hclosing, hjoins, h.redirected_source]
  rfl

theorem redirected_eq_self (h : ∀ table ∈ plan.tables, table.isReader = false) :
    plan.redirected = plan := by
  have hsource := Table.redirected_of_not_isReader (h plan.source List.mem_cons_self)
  have hjoins : plan.joins.map JoinClause.redirected = plan.joins.map id := by
    refine List.map_congr_left fun clause hc => ?_
    have htarget : clause.target ∈ plan.tables := List.mem_cons_of_mem _ (List.mem_map_of_mem hc)
    rw [JoinClause.redirected, Table.redirected_of_not_isReader (h _ htarget)]
    rfl
  rw [redirected, hsource, hjoins, List.map_id]

theorem exists_clause_hasPosition (h : ∃ table ∈ plan.tables, table.isReader = true) :
    ∃ clause ∈ plan.clauses, HasPosition none clause.toList := by
  obtain ⟨table, ht, hr⟩ := h
  obtain ⟨handle, rfl⟩ := Table.exists_reader hr
  rw [clauses_eq]
  rcases List.mem_cons.1 ht with hs | ht
  · refine ⟨_, List.mem_append_right _ List.mem_cons_self, [], "FROM".toList, [' '], _,
      (aliasPart plan.aliasName).toList, ?_, position_from, rfl⟩
    simp [aliased_eq, ← hs, Table.sql]
  · obtain ⟨clause, hc, he⟩ := List.mem_map.1 ht
    refine ⟨clause.sql plan.aliasName, ?_, [], "JOIN".toList, [' '], _,
      (aliasPart clause.aliasName ++ " ON " ++ clause.conditionText plan.aliasName).toList, ?_,
      position_join, rfl⟩
    · exact List.mem_append_right _ (List.mem_cons_of_mem _
        (List.mem_append_left _ (List.mem_map_of_mem hc)))
    · simp [JoinClause.sql_eq, he, Table.sql]

theorem hasPosition_sql (hraw : plan.raw = none)
    (h : ∃ table ∈ plan.tables, table.isReader = true) : HasPosition none plan.sql.toList := by
  obtain ⟨clause, hc, hp⟩ := exists_clause_hasPosition h
  rw [toList_sql hraw]
  exact hp.intercalate_blank (List.mem_map_of_mem hc)

/-- Replacing and compiling commute: where no other text of the plan names the function, the
statement of a plan over readers becomes that of the plan over the table that holds the rows, and
the statement of a plan without readers stays. -/
theorem redirect?_sql (hraw : plan.raw = none) (h : plan.Silent) :
    redirect? plan.sql =
      if plan.tables.any Table.isReader then some plan.redirected.sql else none := by
  have hsql : Embedded.redirected plan.sql.toList = plan.redirected.sql.toList := by
    have hraw' : plan.redirected.raw = none := hraw
    rw [redirected_sql hraw, h.redirected_clauses, toList_sql hraw']
  split
  · next hany =>
    rw [redirect?_eq_some (hasPosition_sql hraw (List.any_eq_true.1 hany)), hsql,
      String.ofList_toList]
  · next hany =>
    have hself : plan.redirected = plan := by
      refine redirected_eq_self fun table ht => ?_
      simpa using fun hr => hany (List.any_eq_true.2 ⟨table, ht, hr⟩)
    rw [redirect?_eq_none_iff, ← redirectedFrom_eq_self_iff, ← redirected_eq, hsql, hself]

/-- A plan over two readers and another table, with words of table positions in its texts. -/
theorem redirect?_sql_notes :
    let plan : Plan := ⟨.reader (some ⟨0, "notes"⟩), "n", ["id", "from"], ["n.x = 'JOIN'"],
      [⟨.reader none, "r", ⟨[("id", "note_id")]⟩⟩, ⟨.raw "users u", "", ⟨[("n.by", "u.id")]⟩⟩],
      some 5, true, none, none⟩
    plan.raw = none ∧ plan.Silent ∧ redirect? plan.sql = some plan.redirected.sql := by
  intro plan
  have hshort : ∀ {texts : List String},
      (∀ text ∈ texts, text.toList.length < Table.readerFunction.toList.length) →
      ∀ text ∈ texts, ¬ NamesReader text.toList :=
    fun h text ht => not_namesReader_of_length_lt (h text ht)
  have hkeys : ∀ clause ∈ plan.joins, ∀ pair ∈ clause.conditions.pairs,
      pair.1.toList.length < Table.readerFunction.toList.length ∧
        pair.2.toList.length < Table.readerFunction.toList.length := by decide
  have htables : ∀ table ∈ plan.tables, table.isReader = false →
      table.sql.toList.length < Table.readerFunction.toList.length := by decide
  have h : plan.Silent :=
    { aliasName := not_namesReader_of_length_lt (by decide)
      fields := hshort (by decide)
      predicates := hshort (by decide)
      joinAliases := fun clause hc => @hshort (plan.joins.map JoinClause.aliasName) (by decide) _
        (List.mem_map_of_mem hc)
      keys := fun clause hc pair hp => (hkeys clause hc pair hp).imp
        not_namesReader_of_length_lt not_namesReader_of_length_lt
      tables := fun table ht hr => not_namesReader_of_length_lt (htables table ht hr) }
  exact ⟨rfl, h, (redirect?_sql rfl h).trans (if_pos rfl)⟩

end Plan

end FluentQuery
