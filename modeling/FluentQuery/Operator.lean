import FluentQuery.Text.Blank

/-!
Comparison operators of predicates. Ten are known by name; every other text is an operator of the
engine's own, which decides whether it is valid.
-/
namespace FluentQuery

/-- An operator, by the text that stands in the statement. -/
structure Operator where
  text : String
deriving DecidableEq, Repr, Inhabited

namespace Operator

def gt : Operator := ⟨">"⟩
def lt : Operator := ⟨"<"⟩
def eq : Operator := ⟨"="⟩
def ne : Operator := ⟨"!="⟩
def gte : Operator := ⟨">="⟩
def lte : Operator := ⟨"<="⟩
def like : Operator := ⟨"LIKE"⟩
def ilike : Operator := ⟨"ILIKE"⟩
def isIn : Operator := ⟨"IN"⟩
def notIn : Operator := ⟨"NOT IN"⟩

def known : List Operator := [gt, lt, eq, ne, gte, lte, like, ilike, isIn, notIn]

/-- The operator that a text names, blanks at its ends aside: a known one by any of its
spellings, else the text itself. -/
def ofText (s : String) : Operator :=
  match Text.trim s with
  | ">" => gt
  | "<" => lt
  | "=" | "==" => eq
  | "!=" | "<>" => ne
  | ">=" => gte
  | "<=" => lte
  | "LIKE" | "like" => like
  | "ILIKE" | "ilike" => ilike
  | "IN" | "in" => isIn
  | "NOT IN" | "not in" => notIn
  | other => ⟨other⟩

def ofSuffix? : String → Option Operator
  | "eq" => some eq
  | "ne" => some ne
  | "gt" => some gt
  | "gte" => some gte
  | "lt" => some lt
  | "lte" => some lte
  | _ => none

end Operator

end FluentQuery
