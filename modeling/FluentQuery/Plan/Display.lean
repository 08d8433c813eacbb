import FluentQuery.Plan.Basic
import FluentQuery.Table.Display

/-!
Displays of plans.
-/
namespace FluentQuery

def JoinKeys.display (keys : JoinKeys) : String :=
  Display.record "JoinConditions" [
    ("pairs", Display.list (keys.pairs.map fun (left, right) =>
      Display.pair (Display.quoted left) (Display.quoted right)))]

def JoinClause.display (clause : JoinClause) : String :=
  Display.record "JoinClause" [
    ("target", clause.target.display),
    ("alias", Display.quoted clause.aliasName),
    ("conditions", clause.conditions.display)]

def Schema.display (schema : Schema) : String :=
  Display.map (schema.map fun (column, type) => (Display.quoted column, Display.quoted type))

def Plan.display (plan : Plan) : String :=
  Display.record "Query" [
    ("source", plan.source.display),
    ("alias", Display.quoted plan.aliasName),
    ("selected_fields", Display.list (plan.fields.map Display.quoted)),
    ("predicates", Display.list (plan.predicates.map Display.quoted)),
    ("joins", Display.list (plan.joins.map JoinClause.display)),
    ("limit", Display.option (plan.limit.map naturalText)),
    ("explain", Display.bool plan.explain),
    ("column_types", Display.option (plan.columnTypes.map Schema.display)),
    ("raw_override", Display.optionalText plan.raw)]

end FluentQuery
