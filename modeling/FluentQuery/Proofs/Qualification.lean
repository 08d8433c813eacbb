import FluentQuery.Plan.Sql

/-!
Names under the alias of a plan. Main statement: a field has one name in conditions and in the
selection, and that is its name as a left join key too unless its only dot stands in front of it.
-/
namespace FluentQuery

variable {field key aliasName : String}

def OnlyFrontDot (text : String) : Prop := ∃ rest : String, '.' ∉ rest.toList ∧ text = "." ++ rest

theorem onlyFrontDot_iff {text : String} :
    OnlyFrontDot text ↔ text.toList.head? = some '.' ∧ '.' ∉ text.toList.tail := by
  constructor
  · rintro ⟨rest, hrest, rfl⟩
    simpa using hrest
  · rintro ⟨hhead, htail⟩
    obtain ⟨rest, htext⟩ := List.head?_eq_some_iff.1 hhead
    rw [htext, List.tail_cons] at htail
    exact ⟨String.ofList rest, by simpa using htail, String.toList_inj.1 (by simp [htext])⟩

instance (text : String) : Decidable (OnlyFrontDot text) := decidable_of_iff' _ onlyFrontDot_iff

/-- A single dot in front of a key names an empty table, so that the dot is dropped. -/
theorem qualifiedKey_frontDot (h : '.' ∉ field.toList) (aliasName : String) :
    qualifiedKey ("." ++ field) aliasName = field := by
  have hkey := qualifiedKey_append h "" aliasName
  rwa [String.empty_append, qualified_empty] at hkey

/-- A key with a dot elsewhere has a table of its own. -/
theorem qualifiedKey_eq_self (hdot : '.' ∈ key.toList) (hfront : ¬ OnlyFrontDot key)
    (aliasName : String) : qualifiedKey key aliasName = key := by
  obtain ⟨table, field, hfield, rfl⟩ := exists_table_of_mem hdot
  have htable : table ≠ "" := by
    rintro rfl
    exact hfront ⟨field, hfield, by rw [String.empty_append]⟩
  rw [qualifiedKey_append hfield, qualified_eq, if_neg (not_or.2 ⟨hfield, htable⟩)]

theorem qualifiedKey_eq_qualified_iff :
    qualifiedKey key aliasName = qualified key aliasName ↔ ¬ OnlyFrontDot key := by
  constructor
  · rintro heq ⟨rest, hrest, rfl⟩
    rw [qualifiedKey_frontDot hrest, qualified_of_mem (by simp)] at heq
    have hlength := congrArg String.length heq
    simp at hlength
  · intro hfront
    by_cases hdot : '.' ∈ key.toList
    · rw [qualifiedKey_eq_self hdot hfront, qualified_of_mem hdot]
    · exact qualifiedKey_of_not_mem hdot aliasName

def JoinClause.equalities (clause : JoinClause) (planAlias : String) : List String :=
  clause.conditions.pairs.map fun (left, right) =>
    qualifiedKey left planAlias ++ "=" ++ qualifiedKey right clause.aliasName

theorem JoinClause.sql_eq_equalities (clause : JoinClause) (planAlias : String) :
    clause.sql planAlias = "JOIN " ++ aliased clause.target.sql clause.aliasName ++ " ON " ++
      " AND ".intercalate (clause.equalities planAlias) := rfl

namespace Plan

theorem getElem?_selectList {plan : Plan} {i : Nat} (h : plan.fields[i]? = some field) :
    plan.selectList[i]? = some (qualified field plan.aliasName) := by
  have hfields : plan.fields.isEmpty = false := by
    cases hempty : plan.fields with
    | nil => simp [hempty] at h
    | cons => rfl
  have hlength := (List.getElem?_eq_some_iff.1 h).1
  rw [selectList, hfields, if_neg Bool.false_ne_true,
    List.getElem?_append_left (by simpa using hlength), List.getElem?_map, h]
  rfl

/-- The name that a field has in the conditions and in the selection of a plan, and its name as a
left key of the plan's joins. -/
structure Prints (plan : Plan) (field name leftName : String) : Prop where
  condition : ∀ (operator : Operator) (value : Value),
    (plan.filter field operator value).predicates =
      plan.predicates ++ [name ++ " " ++ operator.text ++ " " ++ value.literal]
  selection : ∀ (fields : List String) (i : Nat), fields[i]? = some field →
    (plan.select fields).selectList[i]? = some name
  equality : ∀ (clause : JoinClause) (i : Nat) (right : String),
    clause.conditions.pairs[i]? = some (field, right) →
      (clause.equalities plan.aliasName)[i]? =
        some (leftName ++ "=" ++ qualifiedKey right clause.aliasName)

theorem prints_qualified (plan : Plan) (htrim : Text.IsTrimmed field.toList) :
    plan.Prints field (qualified field plan.aliasName) (qualifiedKey field plan.aliasName) where
  condition operator value := by rw [filter, Text.trim_eq_self htrim]
  selection fields i hfield := @getElem?_selectList field (plan.select fields) i hfield
  equality clause i right hpair := by
    rw [JoinClause.equalities, List.getElem?_map, hpair]
    rfl

/-- A field has one name in conditions and in the selection. That is its name as a left key too just
where it is not a dot with a text without dots after it; there the key drops the dot. On both sides
of a join, a key with a dot in any other place is printed as it was given. -/
theorem qualified_names_agree (plan : Plan) (htrim : Text.IsTrimmed field.toList) :
    (∃ name leftName : String, plan.Prints field name leftName ∧
      (name = if '.' ∈ field.toList ∨ plan.aliasName = "" then field
        else plan.aliasName ++ "." ++ field) ∧
      (leftName = name ↔ ¬ OnlyFrontDot field) ∧
      ∀ rest, '.' ∉ rest.toList → field = "." ++ rest → leftName = rest) ∧
    (∀ key aliasName, '.' ∈ key.toList → ¬ OnlyFrontDot key → qualifiedKey key aliasName = key) ∧
    ∀ clause : JoinClause, clause.sql plan.aliasName =
      "JOIN " ++ aliased clause.target.sql clause.aliasName ++ " ON " ++
        " AND ".intercalate (clause.equalities plan.aliasName) := by
  refine ⟨⟨_, _, plan.prints_qualified htrim, qualified_eq field plan.aliasName,
    qualifiedKey_eq_qualified_iff, ?_⟩,
    fun key aliasName hdot hfront => qualifiedKey_eq_self hdot hfront aliasName,
    fun clause => clause.sql_eq_equalities plan.aliasName⟩
  rintro rest hrest rfl
  exact qualifiedKey_frontDot hrest plan.aliasName

/-- A field with a single dot in front, selected and joined on, and a right key with three dots. -/
theorem qualified_names_agree_dots :
    let plan : Plan := ⟨.raw "users", "u", [], [], [], none, false, none, none⟩
    let clause : JoinClause := ⟨.raw "orders", "o", ⟨[("id", "user_id"), (".id", "..shop.id")]⟩⟩
    Text.IsTrimmed ".id".toList ∧
      (plan.filter ".id" .eq (.int32 7)).predicates = [".id = 7"] ∧
      (plan.select ["name", ".id"]).selectList[1]? = some ".id" ∧
      (clause.equalities "u")[1]? = some "id=..shop.id" := by
  intro plan clause
  have htrim : Text.IsTrimmed ".id".toList := Text.isTrimmed_cons_append rfl rfl ['i']
  obtain ⟨⟨name, leftName, hprints, hname, -, hfront⟩, hkey, -⟩ :=
    qualified_names_agree plan htrim
  obtain rfl : name = ".id" := hname
  obtain rfl : leftName = "id" := hfront "id" (by decide) rfl
  have hequality := hprints.equality clause 1 "..shop.id" rfl
  rw [hkey "..shop.id" _ (by decide) (by decide)] at hequality
  exact ⟨htrim, hprints.condition .eq (.int32 7), hprints.selection ["name", ".id"] 1 rfl,
    hequality⟩

end Plan

end FluentQuery
