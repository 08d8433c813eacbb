import FluentQuery.Sql.Database
import FluentQuery.Sql.Relation

/-!
The order in which a query goes through its tables. The first table is the outermost, unless of
two tables the second promises fewer rows or only the first can be searched. A table inside is
searched where an equation gives one of its columns; the rows that are found then come in the
order of their cells in the columns that the query uses.
-/
namespace FluentQuery.Sql

structure Comparison where
  left : Term
  relation : Relation
  right : Term
deriving DecidableEq, Repr, Inhabited

/-- The places of a table's columns in the row of a query. -/
structure Span where
  first : Nat
  width : Nat
deriving DecidableEq, Repr, Inhabited

namespace Span

/-- The spans of tables with these numbers of columns, one after another. -/
def ofWidths : Nat → List Nat → List Span
  | _, [] => []
  | first, width :: widths => ⟨first, width⟩ :: ofWidths (first + width) widths

def holds (span : Span) : Term → Bool
  | .constant _ => false
  | .column place _ => span.first ≤ place && place < span.first + span.width

end Span

namespace Comparison

def terms (c : Comparison) : List Term := [c.left, c.right]

/-- The column that an equation with a constant fixes, and the constant. -/
def fixed? (c : Comparison) : Option (Term × Cell) :=
  match c.relation, c.left, c.right with
  | .eq, .column place affinity, .constant cell => some (.column place affinity, cell)
  | .eq, .constant cell, .column place affinity => some (.column place affinity, cell)
  | _, _, _ => none

/-- Whether a term is as good as a constant to a comparison, where these columns are fixed. The
equations that fix columns say so of no column themselves. -/
def isGiven (fixed : List Term) (c : Comparison) (term : Term) : Bool :=
  term.affinity?.isNone || (c.fixed?.isNone && fixed.contains term)

/-- Whether the comparison is one of the table's columns, with each other or with what is given. -/
def isOwn (fixed : List Term) (span : Span) (c : Comparison) : Bool :=
  let inside (term : Term) : Bool := span.holds term && !c.isGiven fixed term
  c.terms.any inside && c.terms.all fun term => inside term || c.isGiven fixed term

/-- Whether the comparison is an equation by which the table can be searched, from what is given
and the columns of the tables around it. -/
def searches (fixed : List Term) (around : List Span) (span : Span) (c : Comparison) : Bool :=
  let known (term : Term) : Bool := c.isGiven fixed term || around.any fun s => s.holds term
  let fits (term : Term) : Bool := match c.left.commonAffinity c.right with
    | .text => term.affinity? = some .text
    | .untyped => true
    | _ => (term.affinity?.map Term.isNumeric).getD false
  let finds (term other : Term) : Bool :=
    span.holds term && !c.isGiven fixed term && known other && fits term
  c.relation = .eq && (finds c.left c.right || finds c.right c.left)

/-- How much an own comparison narrows a table down: only an equation with what is given does, and
less where the query itself gives a small integer. -/
def weight (fixed : List Term) (c : Comparison) : Nat :=
  match c.fixed? with
  | some (_, .integer n) => if -1 ≤ n ∧ n ≤ 1 then 10 else 20
  | some _ => 20
  | none => if c.relation = .eq ∧ c.terms.any (c.isGiven fixed) then 20 else 0

end Comparison

namespace Nesting

def fixedColumns (comparisons : List Comparison) : List Term :=
  comparisons.filterMap fun c => c.fixed?.map Prod.fst

def narrowing (comparisons : List Comparison) (span : Span) : Nat :=
  let fixed := fixedColumns comparisons
  let own := comparisons.filter (Comparison.isOwn fixed span)
  max own.length ((own.map (Comparison.weight fixed)).foldl max 0)

def isSearched (comparisons : List Comparison) (around : List Span) (span : Span) : Bool :=
  !around.isEmpty &&
    comparisons.any (Comparison.searches (fixedColumns comparisons) around span)

/-- Whether the second of two tables goes around the first. -/
def reversed (comparisons : List Comparison) (first second : Span) : Bool :=
  match isSearched comparisons [first] second, isSearched comparisons [second] first with
  | true, false => false
  | false, true => true
  | _, _ => narrowing comparisons first < narrowing comparisons second

/-- The order of two cells in an index: null first. -/
def indexOrder (a b : Cell) : Ordering :=
  match a, b with
  | .null, .null => .eq
  | .null, _ => .lt
  | _, .null => .gt
  | a, b => (a.order b).getD .eq

def indexLe (columns : List Nat) (a b : List Cell) : Bool :=
  (columns.foldl (fun o i => o.then (indexOrder (a.getD i .null) (b.getD i .null)))
    Ordering.eq).isLE

/-- The rows of a table in the order in which they are found inside the tables around it. -/
def found (comparisons : List Comparison) (used : List Nat) (around : List Span) (span : Span)
    (rows : List (List Cell)) : List (List Cell) :=
  if isSearched comparisons around span then
    let columns := (List.range span.width).filter fun i => used.contains (span.first + i)
    rows.mergeSort (indexLe columns)
  else rows

def nested (comparisons : List Comparison) (used : List Nat) :
    List Span → List (Span × List (List Cell)) → List (List Cell)
  | _, [] => [[]]
  | around, (span, rows) :: tables =>
    let inner := nested comparisons used (span :: around) tables
    (found comparisons used around span rows).flatMap fun row => inner.map (row ++ ·)

/-- The combinations of the tables' rows, in the order in which the query goes through them. -/
def combinations (comparisons : List Comparison) (used : List Nat)
    (tables : List (Span × List (List Cell))) : List (List Cell) :=
  match tables with
  | [(_, rows)] => rows
  | [(first, left), (second, right)] =>
    if reversed comparisons first second then
      let inner := found comparisons used [second] first left
      right.flatMap fun row => inner.map (· ++ row)
    else nested comparisons used [] tables
  | _ => nested comparisons used [] tables

end Nesting

end FluentQuery.Sql
