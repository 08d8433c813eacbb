import FluentQuery.FieldList
import FluentQuery.Operator
import FluentQuery.Plan.JoinKeys
import FluentQuery.Table.Alias

/-!
Query plans and the calls that build them. Each call gives a new plan; a call that fails gives an
error and no plan.
-/
namespace FluentQuery

structure JoinClause where
  target : Table
  aliasName : String
  conditions : JoinKeys
deriving DecidableEq, Repr, Inhabited

/-- What a join points at: the source of another plan under that plan's alias, or a table, whose
alias is derived. -/
inductive JoinTarget where
  | plan (source : Table) (aliasName : String)
  | table (table : Table)
deriving DecidableEq, Repr, Inhabited

/-- A query under construction. A plan with a raw statement is that statement and nothing else. -/
structure Plan where
  source : Table
  aliasName : String
  fields : List String
  predicates : List String
  joins : List JoinClause
  limit : Option Nat
  explain : Bool
  columnTypes : Option Schema
  raw : Option String
deriving DecidableEq, Repr, Inhabited

namespace JoinTarget

def source : JoinTarget → Table
  | plan source _ => source
  | table t => t

/-- The alias of the joined table where the join gives none. -/
def aliasName : JoinTarget → String
  | plan _ aliasName => aliasName
  | table t => t.aliasName

/-- A plan as a target: only its source and its alias count. -/
def ofPlan (p : Plan) : JoinTarget := .plan p.source p.aliasName

end JoinTarget

/-- A field under an alias, unless it names its table itself or the alias is empty. -/
def qualified (field aliasName : String) : String :=
  if field.toList.contains '.' || aliasName.isEmpty then field else aliasName ++ "." ++ field

theorem qualified_eq (field aliasName : String) :
    qualified field aliasName =
      if '.' ∈ field.toList ∨ aliasName = "" then field else aliasName ++ "." ++ field := by
  simp [qualified]

theorem qualified_of_mem {field : String} (h : '.' ∈ field.toList) (aliasName : String) :
    qualified field aliasName = field := by
  rw [qualified_eq, if_pos (.inl h)]

theorem qualified_empty (field : String) : qualified field "" = field := by
  rw [qualified_eq, if_pos (.inr rfl)]

namespace Plan

/-- A plan over a source with an alias; an empty alias stands for none. -/
def withAlias (source : Table) (aliasName : String) : Except Error Plan :=
  if source.isEmpty then .error .emptySource
  else .ok ⟨source, aliasName, [], [], [], none, false, none, none⟩

def ofSource (source : Table) : Except Error Plan := withAlias source source.aliasName

def ofSql (sql : String) : Plan :=
  ⟨.raw "", "", [], [], [], none, false, none, some sql⟩

def select (plan : Plan) (fields : List String) : Plan := { plan with fields := fields }

/-- Adds a condition. Its field is qualified with the plan's alias. -/
def filter (plan : Plan) (field : String) (operator : Operator) (value : Value) : Plan :=
  let predicate := qualified (Text.trim field) plan.aliasName ++ " " ++ operator.text ++ " " ++
    value.literal
  { plan with predicates := plan.predicates ++ [predicate] }

def joinUnder (plan : Plan) (target : JoinTarget) (conditions : JoinKeys) (aliasName : String) :
    Except Error Plan :=
  if conditions.isEmpty then .error .noJoinCondition
  else if target.source.isEmpty then .error .emptyTarget
  else .ok { plan with joins := plan.joins ++ [⟨target.source, aliasName, conditions⟩] }

def join (plan : Plan) (target : JoinTarget) (conditions : JoinKeys) : Except Error Plan :=
  plan.joinUnder target conditions target.aliasName

/-- Joins a target under an alias that wins over the target's own. -/
def joinAs (plan : Plan) (target : JoinTarget) (conditions : JoinKeys) (aliasName : String) :
    Except Error Plan :=
  plan.joinUnder target conditions aliasName

def take (plan : Plan) (n : Nat) : Plan := { plan with limit := some n }

def explained (plan : Plan) : Plan := { plan with explain := true }

def withColumnTypes (plan : Plan) (types : Schema) : Plan :=
  { plan with columnTypes := some types }

def tables (plan : Plan) : List Table := plan.source :: plan.joins.map JoinClause.target

/-- The distinct readers that are attached, in order of first appearance. A raw plan has none. -/
def handles (plan : Plan) : List Handle :=
  if plan.raw.isSome then []
  else (plan.tables.filterMap Table.handle?).foldl
    (fun found handle => if handle ∈ found then found else found ++ [handle]) []

/-- The first reader that is attached. A raw plan has none. -/
def handle? (plan : Plan) : Option Handle :=
  if plan.raw.isSome then none else plan.tables.findSome? Table.handle?

end Plan

end FluentQuery
