import FluentQuery.Proofs.BareNames
import FluentQuery.Proofs.BlankWords
import FluentQuery.Proofs.Calls
import Mathlib.Data.List.Basic

/-!
What the statement of a plan says, in plans whose names are all identifiers. Main statement: the
words of the statement are those of what it says.
-/
namespace FluentQuery

structure Condition.Simple (condition : Condition) : Prop where
  field : IsBareField condition.field
  operator : condition.operator ∈ [Operator.eq, .ne, .lt, .gt, .lte, .gte]
  value : ∃ n : Int64, condition.value = .int64 n

structure JoinClause.Simple (clause : JoinClause) : Prop where
  target : ∃ name, isBareName name = true ∧ clause.target = .raw name
  aliasName : isBareName clause.aliasName = true
  keys : ∀ pair ∈ clause.conditions.pairs, IsBareField pair.1 ∧ IsBareField pair.2

/-- A plan of identifiers only. Its predicates are those of conditions that it was filtered by. -/
structure Plan.Simple (plan : Plan) : Prop where
  raw : plan.raw = none
  source : ∃ name, isBareName name = true ∧ plan.source = .raw name
  aliasName : isBareName plan.aliasName = true
  fields : ∀ field ∈ plan.fields, IsBareField field
  joins : ∀ clause ∈ plan.joins, clause.Simple
  predicates : ∀ predicate ∈ plan.predicates,
    ∃ condition : Condition, condition.Simple ∧ predicate = condition.predicate plan.aliasName

/-- What the clause of a join says. -/
structure JoinClause.Reading where
  target : Table
  aliasName : String
  pairs : List (String × String)
deriving DecidableEq, Repr

/-- What a statement says. There are no fields where all columns are selected. -/
structure Plan.Reading where
  explain : Bool
  fields : List String
  source : Table
  aliasName : String
  joins : List JoinClause.Reading
  predicates : List String
  limit : Option Nat
deriving DecidableEq, Repr

/-- A clause with its keys qualified. -/
def JoinClause.reading (clause : JoinClause) (planAlias : String) : JoinClause.Reading :=
  ⟨clause.target, clause.aliasName, clause.conditions.pairs.map fun pair =>
    (qualifiedKey pair.1 planAlias, qualifiedKey pair.2 clause.aliasName)⟩

/-- A plan with its fields and its keys qualified. -/
def Plan.reading (plan : Plan) : Plan.Reading :=
  ⟨plan.explain, plan.fields.map (qualified · plan.aliasName), plan.source, plan.aliasName,
    plan.joins.map (·.reading plan.aliasName), plan.predicates, plan.limit⟩

/-! The words of what a statement says. -/

namespace JoinClause.Reading

def condition (pair : String × String) : String := pair.1 ++ "=" ++ pair.2

def parts (pairs : List (String × String)) : List (List String) :=
  if pairs = [] then [[""]] else pairs.map fun pair => [condition pair]

def words (clause : Reading) : List String :=
  "JOIN" :: clause.target.sql :: "AS" :: clause.aliasName :: "ON" ::
    ["AND"].intercalate (parts clause.pairs)

structure Plain (clause : Reading) : Prop where
  target : ∃ name, clause.target = .raw name
  aliasName : Unmarked clause.aliasName
  pairs : ∀ pair ∈ clause.pairs, Unmarked pair.1 ∧ Unmarked pair.2

end JoinClause.Reading

namespace Plan.Reading

def items (reading : Reading) : List String :=
  (if reading.fields = [] then [star reading.aliasName] else reading.fields) ++
    reading.joins.map fun clause => star clause.aliasName

def explainWords (explain : Bool) : List String := if explain then ["EXPLAIN"] else []

def filterWords (predicates : List String) : List String :=
  if predicates = [] then [] else "WHERE" :: ["AND"].intercalate (predicates.map Text.words)

def limitWords : Option Nat → List String
  | some n => ["LIMIT", naturalText n]
  | none => []

def words (reading : Reading) : List String :=
  explainWords reading.explain ++ "SELECT" :: (Text.listed reading.items ++
    "FROM" :: reading.source.sql :: "AS" :: reading.aliasName ::
      (reading.joins.flatMap JoinClause.Reading.words ++
        (filterWords reading.predicates ++ limitWords reading.limit)))

structure Plain (reading : Reading) : Prop where
  source : ∃ name, reading.source = .raw name
  aliasName : Unmarked reading.aliasName
  fields : ∀ field ∈ reading.fields, Unmarked field
  joins : ∀ clause ∈ reading.joins, clause.Plain
  predicates : ∀ predicate ∈ reading.predicates, (Text.words predicate).length = 3

end Plan.Reading

/-! The words of a statement are those of what it says. -/

theorem words_aliased {name aliasName : String} (hname : ' ' ∉ name.toList)
    (halias : isBareName aliasName = true) :
    Text.words (aliased name aliasName) = [name, "AS", aliasName] := by
  have hparts : aliased name aliasName = name ++ " " ++ ("AS" ++ " " ++ aliasName) := by
    rw [aliased, isEmpty_of_isBareName halias, ← String.toList_inj]
    simp
  rw [hparts, Text.words_cons hname, Text.words_cons (by decide),
    Text.words_of_not_mem (unmarked_of_isBareName halias).not_mem_blank]

namespace JoinClause

open Reading (condition)

theorem Simple.plain {clause : JoinClause} (h : clause.Simple) {planAlias : String}
    (halias : isBareName planAlias = true) : (clause.reading planAlias).Plain where
  target := h.target.imp fun _ hname => hname.2
  aliasName := unmarked_of_isBareName h.aliasName
  pairs := by
    intro pair hpair
    obtain ⟨keys, hkeys, rfl⟩ := List.mem_map.1 hpair
    obtain ⟨hleft, hright⟩ := h.keys keys hkeys
    exact ⟨unmarked_qualifiedKey hleft.unmarked (unmarked_of_isBareName halias),
      unmarked_qualifiedKey hright.unmarked (unmarked_of_isBareName h.aliasName)⟩

theorem Reading.Plain.not_mem_blank_condition {clause : Reading} (h : clause.Plain)
    {pair : String × String} (hpair : pair ∈ clause.pairs) : ' ' ∉ (condition pair).toList := by
  obtain ⟨hleft, hright⟩ := h.pairs pair hpair
  simp [condition, hleft.not_mem_blank, hright.not_mem_blank]

theorem Reading.Plain.words_conditions {clause : Reading} (h : clause.Plain) :
    Text.words (" AND ".intercalate (clause.pairs.map condition)) =
      ["AND"].intercalate (parts clause.pairs) := by
  by_cases hpairs : clause.pairs = []
  · simp [hpairs, parts, Text.words_of_not_mem]
  · have hwords : ∀ pair ∈ clause.pairs, Text.words (condition pair) = [condition pair] :=
      fun pair hpair => Text.words_of_not_mem (h.not_mem_blank_condition hpair)
    rw [parts, if_neg hpairs, Text.words_intercalate_and (by simpa using hpairs), List.map_map]
    exact congrArg _ (List.map_congr_left hwords)

theorem Simple.words_sql {clause : JoinClause} (h : clause.Simple) {planAlias : String}
    (halias : isBareName planAlias = true) :
    Text.words (clause.sql planAlias) = (clause.reading planAlias).words := by
  obtain ⟨name, hname, htarget⟩ := h.target
  have hparts : clause.sql planAlias =
      "JOIN" ++ " " ++ (aliased clause.target.sql clause.aliasName ++ " " ++
        ("ON" ++ " " ++ " AND ".intercalate ((clause.reading planAlias).pairs.map condition))) := by
    rw [← String.toList_inj]
    simp [JoinClause.sql, reading, condition, Function.comp_def]
  have hsql : clause.target.sql = name := by rw [htarget, Table.sql]
  rw [hparts, Text.words_cons (by decide), Text.words_append, Text.words_cons (by decide),
    (h.plain halias).words_conditions, hsql,
    words_aliased (unmarked_of_isBareName hname).not_mem_blank h.aliasName, Reading.words]
  simp only [reading, hsql]
  rfl

end JoinClause

theorem Condition.Simple.words_predicate {condition : Condition} (h : condition.Simple)
    {aliasName : String} (halias : isBareName aliasName = true) :
    Text.words (condition.predicate aliasName) =
      [qualified (Text.trim condition.field) aliasName, condition.operator.text,
        condition.value.literal] := by
  have htrim : Unmarked (Text.trim condition.field) := fun c hc =>
    h.field.unmarked c (Text.mem_of_mem_trimmed (by simpa using hc))
  have hfield := (unmarked_qualified htrim (unmarked_of_isBareName halias)).not_mem_blank
  have hoperator : ' ' ∉ condition.operator.text.toList := by
    have hall : ∀ operator ∈ [Operator.eq, .ne, .lt, .gt, .lte, .gte],
        ' ' ∉ operator.text.toList := by decide
    exact hall _ h.operator
  have hvalue : ' ' ∉ condition.value.literal.toList := by
    obtain ⟨n, hn⟩ := h.value
    rw [hn, Value.literal]
    exact not_mem_blank_integerText _
  have hparts : condition.predicate aliasName =
      qualified (Text.trim condition.field) aliasName ++ " " ++
        (condition.operator.text ++ " " ++ condition.value.literal) := by
    rw [← String.toList_inj]
    simp [Condition.predicate]
  rw [hparts, Text.words_cons hfield, Text.words_cons hoperator, Text.words_of_not_mem hvalue]

namespace Plan

theorem Simple.plain {plan : Plan} (h : plan.Simple) : plan.reading.Plain where
  source := h.source.imp fun _ hname => hname.2
  aliasName := unmarked_of_isBareName h.aliasName
  fields := by
    intro name hname
    obtain ⟨field, hfield, rfl⟩ := List.mem_map.1 hname
    exact unmarked_qualified (h.fields field hfield).unmarked (unmarked_of_isBareName h.aliasName)
  joins := by
    intro clause hclause
    obtain ⟨join, hjoin, rfl⟩ := List.mem_map.1 hclause
    exact (h.joins join hjoin).plain h.aliasName
  predicates := by
    intro predicate hpredicate
    obtain ⟨condition, hcondition, rfl⟩ := h.predicates predicate hpredicate
    rw [hcondition.words_predicate h.aliasName]
    rfl

theorem selectList_eq_items (plan : Plan) : plan.selectList = plan.reading.items := by
  simp [selectList, Reading.items, reading, JoinClause.reading, Function.comp_def]

namespace Reading

theorem items_ne_nil (reading : Reading) : reading.items ≠ [] := by
  unfold items
  split
  · simp
  · simp [*]

theorem not_mem_star_of_unmarked {aliasName : String} (h : Unmarked aliasName) :
    ' ' ∉ (star aliasName).toList ∧ ',' ∉ (star aliasName).toList := by
  unfold star
  split
  · simp
  · simp [h.not_mem_blank, h.not_mem_comma]

theorem Plain.items {reading : Reading} (h : reading.Plain) :
    ∀ item ∈ reading.items, ' ' ∉ item.toList ∧ ',' ∉ item.toList := by
  intro item hitem
  rcases List.mem_append.1 hitem with hfield | hstar
  · split at hfield
    · rw [List.mem_singleton.1 hfield]
      exact not_mem_star_of_unmarked h.aliasName
    · exact ⟨(h.fields item hfield).not_mem_blank, (h.fields item hfield).not_mem_comma⟩
  · obtain ⟨clause, hclause, rfl⟩ := List.mem_map.1 hstar
    exact not_mem_star_of_unmarked (h.joins clause hclause).aliasName

end Reading

def limitClauses : Option Nat → List String
  | some n => ["LIMIT " ++ naturalText n]
  | none => []

theorem clauses_eq_append (plan : Plan) :
    plan.clauses = (if plan.explain then ["EXPLAIN"] else []) ++
      ["SELECT " ++ ", ".intercalate plan.selectList] ++
      ["FROM " ++ aliased plan.source.sql plan.aliasName] ++
      plan.joins.map (fun clause => clause.sql plan.aliasName) ++
      (if plan.predicates.isEmpty then []
        else ["WHERE " ++ " AND ".intercalate plan.predicates]) ++ limitClauses plan.limit := rfl

theorem Simple.words_sql {plan : Plan} (h : plan.Simple) :
    Text.words plan.sql = plan.reading.words := by
  obtain ⟨name, hname, hsource⟩ := h.source
  have hne : plan.clauses ≠ [] := by simp [clauses]
  have hsql : plan.sql = " ".intercalate plan.clauses := by rw [sql, h.raw]
  have hexplain : (if plan.explain then ["EXPLAIN"] else []).flatMap Text.words =
      Reading.explainWords plan.explain := by
    cases plan.explain <;> rfl
  have hselect : Text.words ("SELECT " ++ ", ".intercalate plan.selectList) =
      "SELECT" :: Text.listed plan.reading.items := by
    rw [Text.words_lead "SELECT " "SELECT" rfl (by decide), selectList_eq_items,
      Text.words_intercalate_comma (Reading.items_ne_nil _)
        fun item hitem => (h.plain.items item hitem).1]
  have hfrom : Text.words ("FROM " ++ aliased plan.source.sql plan.aliasName) =
      ["FROM", plan.source.sql, "AS", plan.aliasName] := by
    have hblank : ' ' ∉ plan.source.sql.toList := by
      rw [hsource, Table.sql]
      exact (unmarked_of_isBareName hname).not_mem_blank
    rw [Text.words_lead "FROM " "FROM" rfl (by decide), words_aliased hblank h.aliasName]
  have hjoins : (plan.joins.map fun clause => clause.sql plan.aliasName).flatMap Text.words =
      plan.reading.joins.flatMap JoinClause.Reading.words := by
    rw [reading, List.flatMap_map, List.flatMap_map]
    exact List.flatMap_congr fun clause hclause => (h.joins clause hclause).words_sql h.aliasName
  have hfilter : (if plan.predicates.isEmpty then []
      else ["WHERE " ++ " AND ".intercalate plan.predicates]).flatMap Text.words =
      Reading.filterWords plan.predicates := by
    by_cases hp : plan.predicates = []
    · simp [hp, Reading.filterWords]
    · rw [if_neg (by simpa using hp), List.flatMap_singleton, Reading.filterWords, if_neg hp,
        Text.words_lead "WHERE " "WHERE" rfl (by decide), Text.words_intercalate_and hp]
  have hlimit : (limitClauses plan.limit).flatMap Text.words = Reading.limitWords plan.limit := by
    cases plan.limit with
    | none => rfl
    | some n =>
      rw [limitClauses, List.flatMap_singleton, Reading.limitWords,
        Text.words_lead "LIMIT " "LIMIT" rfl (by decide),
        Text.words_of_not_mem (not_mem_blank_naturalText n)]
  rw [hsql, Text.words_intercalate hne, clauses_eq_append]
  simp only [List.flatMap_append, List.flatMap_singleton, hexplain, hselect, hfrom, hjoins, hfilter,
    hlimit]
  simp [Reading.words, reading]

end Plan

end FluentQuery
