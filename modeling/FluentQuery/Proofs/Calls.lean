import FluentQuery.FieldList
import FluentQuery.Plan.Sql

/-!
Runs of builder calls. A call that fails leaves the plan as it was. Main statements: a run changes
a plan only through its last selection, its conditions, its successful joins, its last limit and
whether it asks for an explanation, and two runs that agree on these give the same statement.
-/
namespace FluentQuery

/-- What a caller selects: the fields in one text, or one by one. -/
inductive Selection where
  | text (s : String)
  | list (entries : List String)
deriving DecidableEq, Repr

def Selection.fields : Selection → List String
  | text s => FieldList.ofText s
  | list entries => FieldList.ofList entries

/-- What a caller joins: another plan with all that it carries, or a table. -/
inductive Joined where
  | plan (p : Plan)
  | table (t : Table)
deriving DecidableEq, Repr

def Joined.target : Joined → JoinTarget
  | plan p => .ofPlan p
  | table t => .table t

inductive Call where
  | select (selection : Selection)
  | filter (field : String) (operator : Operator) (value : Value)
  | join (joined : Joined) (pairs : List (String × String))
  | joinAs (joined : Joined) (pairs : List (String × String)) (aliasName : String)
  | limit (n : Nat)
  | explain
  | columnTypes (types : Schema)
deriving Repr

structure Condition where
  field : String
  operator : Operator
  value : Value
deriving Repr

def Condition.predicate (condition : Condition) (aliasName : String) : String :=
  qualified (Text.trim condition.field) aliasName ++ " " ++ condition.operator.text ++ " " ++
    condition.value.literal

structure Joining where
  source : Table
  ownAlias : String
  givenAlias : Option String
  conditions : JoinKeys
deriving DecidableEq, Repr

def Joining.clause (joining : Joining) : JoinClause :=
  ⟨joining.source, joining.givenAlias.getD joining.ownAlias, joining.conditions⟩

namespace Call

@[simp] def fields? : Call → Option (List String)
  | select selection => some selection.fields
  | _ => none

@[simp] def condition? : Call → Option Condition
  | filter field operator value => some ⟨field, operator, value⟩
  | _ => none

@[simp] def limit? : Call → Option Nat
  | limit n => some n
  | _ => none

@[simp] def isExplain : Call → Bool
  | explain => true
  | _ => false

@[simp] def types? : Call → Option Schema
  | columnTypes types => some types
  | _ => none

@[simp] def joining? : Call → Option Joining
  | join joined pairs =>
    some ⟨joined.target.source, joined.target.aliasName, none, .ofList pairs⟩
  | joinAs joined pairs aliasName =>
    some ⟨joined.target.source, joined.target.aliasName, some aliasName, .ofList pairs⟩
  | _ => none

end Call

namespace Plan

def call (plan : Plan) : Call → Except Error Plan
  | .select selection => .ok (plan.select selection.fields)
  | .filter field operator value => .ok (plan.filter field operator value)
  | .join joined pairs => plan.join joined.target (.ofList pairs)
  | .joinAs joined pairs aliasName => plan.joinAs joined.target (.ofList pairs) aliasName
  | .limit n => .ok (plan.take n)
  | .explain => .ok plan.explained
  | .columnTypes types => .ok (plan.withColumnTypes types)

/-- The plan after calls. One that fails leaves the plan as it was. -/
def after (plan : Plan) : List Call → Plan
  | [] => plan
  | c :: calls => match plan.call c with
    | .ok next => next.after calls
    | .error _ => plan.after calls

/-- The joins among the calls that succeed, each on the plan that it is called on. -/
def joinings (plan : Plan) : List Call → List Joining
  | [] => []
  | c :: calls => match plan.call c with
    | .ok next => c.joining?.toList ++ next.joinings calls
    | .error _ => plan.joinings calls

theorem filter_eq (plan : Plan) (field : String) (operator : Operator) (value : Value) :
    plan.filter field operator value =
      { plan with
        predicates :=
          plan.predicates ++ [Condition.predicate ⟨field, operator, value⟩ plan.aliasName] } :=
  rfl

theorem joinUnder_cases (plan : Plan) (target : JoinTarget) (conditions : JoinKeys)
    (aliasName : String) :
    (∃ e, plan.joinUnder target conditions aliasName = .error e) ∨
      plan.joinUnder target conditions aliasName =
        .ok { plan with joins := plan.joins ++ [⟨target.source, aliasName, conditions⟩] } := by
  unfold joinUnder
  split
  · exact .inl ⟨_, rfl⟩
  · split
    · exact .inl ⟨_, rfl⟩
    · exact .inr rfl

theorem call_cases (plan : Plan) (c : Call) :
    (∃ e, plan.call c = .error e ∧ c.joining?.isSome) ∨
      plan.call c = .ok { plan with
        fields := c.fields?.getD plan.fields
        predicates := plan.predicates ++ c.condition?.toList.map (·.predicate plan.aliasName)
        joins := plan.joins ++ c.joining?.toList.map Joining.clause
        limit := c.limit?.or plan.limit
        explain := plan.explain || c.isExplain
        columnTypes := c.types?.or plan.columnTypes } := by
  cases c with
  | join joined pairs =>
    rcases plan.joinUnder_cases joined.target (.ofList pairs) joined.target.aliasName with
      ⟨e, he⟩ | hok
    · exact .inl ⟨e, he, rfl⟩
    · exact .inr (by simpa [call, join, Joining.clause] using hok)
  | joinAs joined pairs aliasName =>
    rcases plan.joinUnder_cases joined.target (.ofList pairs) aliasName with ⟨e, he⟩ | hok
    · exact .inl ⟨e, he, rfl⟩
    · exact .inr (by simpa [call, joinAs, Joining.clause] using hok)
  | _ => exact .inr (by simp [call, select, filter_eq, take, explained, withColumnTypes])

/-- A run as one change: the last of each kind that replaces, all of each kind that adds. The
alias stays, so that a condition is qualified alike wherever its call stands in the run. -/
theorem after_eq (plan : Plan) (calls : List Call) :
    plan.after calls = { plan with
      fields := (calls.filterMap Call.fields?).getLast?.getD plan.fields
      predicates := plan.predicates ++
        (calls.filterMap Call.condition?).map (·.predicate plan.aliasName)
      joins := plan.joins ++ (plan.joinings calls).map Joining.clause
      limit := (calls.filterMap Call.limit?).getLast?.or plan.limit
      explain := plan.explain || calls.any Call.isExplain
      columnTypes := (calls.filterMap Call.types?).getLast?.or plan.columnTypes } := by
  induction calls generalizing plan with
  | nil => simp [after, joinings]
  | cons c calls ih =>
    rcases plan.call_cases c with ⟨e, he, hj⟩ | hok
    · simp only [after, joinings, he, ih]
      cases c <;> simp_all [List.filterMap_cons]
    · simp only [after, joinings, hok, ih]
      cases c <;> simp [List.filterMap_cons, List.getLast?_cons]

/-- Two runs from one plan that have the same conditions and the same successful joins, each in
order, the same last selection, the same last limit, and both or neither an explanation. -/
structure Agree (plan : Plan) (calls calls' : List Call) : Prop where
  conditions : calls.filterMap Call.condition? = calls'.filterMap Call.condition?
  joinings : plan.joinings calls = plan.joinings calls'
  fields : (calls.filterMap Call.fields?).getLast? = (calls'.filterMap Call.fields?).getLast?
  limit : (calls.filterMap Call.limit?).getLast? = (calls'.filterMap Call.limit?).getLast?
  explain : calls.any Call.isExplain = calls'.any Call.isExplain

/-- Runs that agree give the same statement over the same readers, in whatever order their calls
stand and whatever else the plans that they join carry. -/
theorem sql_after_eq_of_agree {plan : Plan} {calls calls' : List Call}
    (h : plan.Agree calls calls') :
    (plan.after calls).sql = (plan.after calls').sql ∧
      (plan.after calls).handles = (plan.after calls').handles := by
  rw [after_eq, after_eq, h.conditions, h.joinings, h.fields, h.limit, h.explain]
  exact ⟨rfl, rfl⟩

/-- A plan over the users and the same join of two plans over the orders: one run selects twice
and joins first, the other has a join that fails and asks for the limit twice. -/
theorem sql_after_eq_of_agree_users :
    let users : Plan := ⟨.raw "users", "u", [], [], [], none, false, none, none⟩
    let orders : Plan := ⟨.raw "orders", "o", [], [], [], none, false, none, none⟩
    let calls : List Call := [.join (.plan orders) [("id", "user_id")], .select (.text "id"),
      .filter "age" .gt (.int32 18), .limit 5, .explain, .select (.text "name")]
    let calls' : List Call := [.explain, .limit 9, .filter "age" .gt (.int32 18),
      .join (.table (.raw " ")) [("id", "user_id")], .select (.list [" name"]), .limit 5,
      .join (.plan (orders.take 3)) [("id", "user_id")], .explain]
    users.Agree calls calls' ∧ (users.after calls).sql = (users.after calls').sql ∧
      (users.after calls).handles = (users.after calls').handles := by
  intro users orders calls calls'
  have h : users.Agree calls calls' := ⟨rfl, by decide, by decide, rfl, rfl⟩
  exact ⟨h, sql_after_eq_of_agree h⟩

end Plan

end FluentQuery
