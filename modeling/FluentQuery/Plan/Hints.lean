import FluentQuery.Plan.Basic

/-!
What is known about the columns behind each alias of a plan.
-/
namespace FluentQuery

/-- The columns of a table: with their types, or by name alone, a star where nothing is known. -/
inductive ColumnHint where
  | typed (types : Schema)
  | names (names : List String)
deriving DecidableEq, Repr, Inhabited

abbrev Hints := List (String × ColumnHint)

namespace ColumnHint

def unknown : ColumnHint := names ["*"]

end ColumnHint

namespace Plan

/-- The columns of the source: the types that were noted, else those of the attached reader, else
the selected fields. -/
def sourceHint (plan : Plan) (shelf : Shelf) : ColumnHint :=
  match plan.columnTypes, plan.source.handle? with
  | some types, _ => .typed types
  | none, some handle => match shelf.schema handle with
    | .ok types => .typed types
    | .error _ => .unknown
  | none, none => if plan.fields.isEmpty then .unknown else .names plan.fields

/-- The columns of a joined table: those of its reader, if that has any. -/
def joinHint (shelf : Shelf) (clause : JoinClause) : ColumnHint :=
  match clause.target.handle?.map shelf.schema with
  | some (.ok (entry :: types)) => .typed (entry :: types)
  | _ => .unknown

/-- The columns behind each alias. Of an alias that occurs again the last use counts; an empty
alias has no entry. -/
def hints (plan : Plan) (shelf : Shelf) : Hints :=
  let uses := (plan.aliasName, plan.sourceHint shelf) ::
    plan.joins.map fun clause => (clause.aliasName, joinHint shelf clause)
  Assoc.ofPairs (uses.filter fun use => !use.1.isEmpty)

end Plan

end FluentQuery
