import FluentQuery.Sql.Token

/-!
The commands that the embedded database takes.
-/
namespace FluentQuery.Sql

/-- A value, a parameter, or a column, perhaps under the name of its table. A name that stands for
itself where there is no such column is a text then. -/
inductive Operand where
  | value (cell : Cell)
  | parameter (index : Nat)
  | column (table : Option String) (name : String) (orText : Bool)
deriving DecidableEq, Repr, Inhabited

structure Condition where
  left : Operand
  relation : Relation
  right : Operand
deriving DecidableEq, Repr, Inhabited

/-- What a query selects: all columns, those of one table, the number of rows, or an operand. The
last two are headed by their alias, or else by their text, or a column by its own name. -/
inductive Item where
  | all
  | allOf (table : String)
  | count (aliasName : Option String) (text : String)
  | operand (operand : Operand) (aliasName : Option String) (text : String)
deriving DecidableEq, Repr, Inhabited

structure TableUse where
  name : String
  aliasName : Option String
deriving DecidableEq, Repr, Inhabited

structure Query where
  items : List Item
  tables : List TableUse
  conditions : List Condition
  limit : Option Operand
deriving DecidableEq, Repr, Inhabited

structure Column where
  name : String
  affinity : Affinity
deriving DecidableEq, Repr, Inhabited

/-- A command; a text may also hold none. -/
inductive Command where
  | nothing
  | query (query : Query)
  | create (temporary : Bool) (table : String) (columns : List Column)
  | insert (table : String) (columns : Option (List String)) (rows : List (List Operand))
  | drop (ifExists : Bool) (table : String)
deriving DecidableEq, Repr, Inhabited

/-- The name under which a query sees a table. -/
def TableUse.visible (use : TableUse) : String := use.aliasName.getD use.name

/-- Names are equal whatever the case of their ASCII letters. -/
def sameName (a b : String) : Bool := Text.lowered a = Text.lowered b

end FluentQuery.Sql
