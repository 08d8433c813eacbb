import FluentQuery.Sql.Pattern
import FluentQuery.Sql.Scope

/-!
Comparisons. A column passes its affinity on to the other side, which decides whether a text is
compared as a number or a number as a text.
-/
namespace FluentQuery.Sql

namespace Term

def affinity? : Term → Option Affinity
  | constant _ => none
  | column _ affinity => some affinity

def isNumeric (affinity : Affinity) : Bool :=
  match affinity with
  | .numeric | .real => true
  | _ => false

/-- The affinity under which two terms are compared. -/
def commonAffinity (a b : Term) : Affinity :=
  match a.affinity?, b.affinity? with
  | some a, some b => if isNumeric a || isNumeric b then .numeric else .untyped
  | some a, none => a
  | none, some b => b
  | none, none => .untyped

end Term

def adapted (affinity : Affinity) (a b : Cell) : Cell × Cell :=
  match affinity with
  | .numeric | .real => (a.asNumber, b.asNumber)
  | .text => if a.isText || b.isText then (a.asText, b.asText) else (a, b)
  | .untyped => (a, b)

/-- Whether two cells are so related; there is no answer for null. -/
def Relation.holds (affinity : Affinity) (r : Relation) (a b : Cell) : Option Bool :=
  let (x, y) := adapted affinity a b
  match r with
  | .like => isLike a b
  | .eq => (x.order y).map fun o => o.isEq
  | .ne => (x.order y).map fun o => o.isNe
  | .lt => (x.order y).map fun o => o.isLT
  | .le => (x.order y).map fun o => o.isLE
  | .gt => (x.order y).map fun o => o.isGT
  | .ge => (x.order y).map fun o => o.isGE

end FluentQuery.Sql
