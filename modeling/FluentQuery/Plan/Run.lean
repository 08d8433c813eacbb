import FluentQuery.Oracle.Request
import FluentQuery.Output.Format
import FluentQuery.Plan.Sql

/-!
Running a plan on an engine, and asking an oracle for the next one.
-/
namespace FluentQuery.Plan

/-- The statement of a plan for an engine. At most one reader can be attached to it. -/
def statement (plan : Plan) (format : OutputFormat) : Except Error Statement :=
  match plan.handles with
  | first :: second :: others =>
    .error (.severalReaders ((first :: second :: others).map Handle.name))
  | _ => .ok ⟨plan.sql, format, plan.handle?⟩

/-- Runs a plan. An engine is called once, or not at all if the plan has no statement for it. -/
def execute {σ : Type} (plan : Plan) (engine : Engine σ) (format : OutputFormat) (state : σ) :
    Except Error String × σ :=
  match plan.statement format with
  | .ok statement => engine statement state
  | .error e => (.error e, state)

def request (plan : Plan) (shelf : Shelf) (question : String) (cache : Bool) : Oracle.Request :=
  ⟨question, plan.hints shelf, plan.sql,
    if cache then Oracle.cachedTemperature else Oracle.defaultTemperature⟩

def ask (plan : Plan) (oracle : Oracle.Request → Except Error String) (shelf : Shelf)
    (question : String) (cache : Bool) : Except Error Plan :=
  (oracle (plan.request shelf question cache)).map ofSql

end FluentQuery.Plan
