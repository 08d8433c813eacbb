import FluentQuery.Plan.Basic

/-!
The statement of a plan. The clauses stand in a fixed order with one blank between them; a clause
that has nothing to say is left out.
-/
namespace FluentQuery

def aliased (sql aliasName : String) : String :=
  if aliasName.isEmpty then sql else sql ++ " AS " ++ aliasName

def star (aliasName : String) : String := if aliasName.isEmpty then "*" else aliasName ++ ".*"

/-- A join key. What stands before its last dot names its table; a key without a dot belongs to
the alias. -/
def qualifiedKey (key aliasName : String) : String :=
  let (table, field) := match Text.splitLast '.' key.toList with
    | some (table, field) => (String.ofList table, String.ofList field)
    | none => (aliasName, key)
  if table.isEmpty then field else table ++ "." ++ field

theorem qualifiedKey_of_not_mem {key : String} (h : '.' ∉ key.toList) (aliasName : String) :
    qualifiedKey key aliasName = qualified key aliasName := by
  rw [qualifiedKey, Text.splitLast_eq_none_iff.2 h]
  simp [qualified, h]

theorem qualifiedKey_append {field : String} (h : '.' ∉ field.toList) (table aliasName : String) :
    qualifiedKey (table ++ "." ++ field) aliasName = qualified field table := by
  have hsplit : Text.splitLast '.' (table ++ "." ++ field).toList =
      some (table.toList, field.toList) :=
    Text.splitLast_eq_some_iff.2 ⟨h, by simp⟩
  rw [qualifiedKey, hsplit]
  simp [qualified, h]

theorem exists_table_of_mem {key : String} (h : '.' ∈ key.toList) :
    ∃ table field, '.' ∉ field.toList ∧ key = table ++ "." ++ field := by
  cases hsplit : Text.splitLast '.' key.toList with
  | none => exact absurd h (Text.splitLast_eq_none_iff.1 hsplit)
  | some parts =>
    obtain ⟨hfield, hkey⟩ := Text.splitLast_eq_some_iff.1 hsplit
    exact ⟨String.ofList parts.1, String.ofList parts.2, by simpa using hfield,
      String.toList_inj.1 (by simp [hkey])⟩

/-- A join key is a field of the alias or of the table that it names itself. -/
theorem qualifiedKey_cases (key aliasName : String) :
    qualifiedKey key aliasName = qualified key aliasName ∨
      ∃ table field, key = table ++ "." ++ field ∧
        qualifiedKey key aliasName = qualified field table := by
  by_cases h : '.' ∈ key.toList
  · obtain ⟨table, field, hfield, rfl⟩ := exists_table_of_mem h
    exact .inr ⟨table, field, rfl, qualifiedKey_append hfield table aliasName⟩
  · exact .inl (qualifiedKey_of_not_mem h aliasName)

def JoinClause.sql (clause : JoinClause) (planAlias : String) : String :=
  let conditions := clause.conditions.pairs.map fun (left, right) =>
    qualifiedKey left planAlias ++ "=" ++ qualifiedKey right clause.aliasName
  "JOIN " ++ aliased clause.target.sql clause.aliasName ++ " ON " ++ " AND ".intercalate conditions

namespace Plan

/-- What is selected: the fields, or all columns where there are none, and all columns of every
joined table. -/
def selectList (plan : Plan) : List String :=
  (if plan.fields.isEmpty then [star plan.aliasName]
    else plan.fields.map fun field => qualified field plan.aliasName) ++
  plan.joins.map fun clause => star clause.aliasName

def clauses (plan : Plan) : List String :=
  (if plan.explain then ["EXPLAIN"] else []) ++
  ["SELECT " ++ ", ".intercalate plan.selectList] ++
  ["FROM " ++ aliased plan.source.sql plan.aliasName] ++
  plan.joins.map (fun clause => clause.sql plan.aliasName) ++
  (if plan.predicates.isEmpty then []
    else ["WHERE " ++ " AND ".intercalate plan.predicates]) ++
  (match plan.limit with
    | some n => ["LIMIT " ++ naturalText n]
    | none => [])

def sql (plan : Plan) : String :=
  match plan.raw with
  | some text => text
  | none => " ".intercalate plan.clauses

end Plan

end FluentQuery
