import FluentQuery.Assoc
import FluentQuery.Document

/-!
The fields of a structure in a document: by name in a table, where unknown names are passed over,
or by place in a list.
-/
namespace FluentQuery

structure Fields where
  /-- whether the fields stand under their names -/
  named : Bool
  values : List (String × Document)
deriving Repr, Inhabited

namespace Fields

/-- The fields of these names in a document. A list that is longer than the names is refused if
`exact` is set, and cut off otherwise. -/
def of? (exact : Bool) (names : List String) : Document → Option Fields
  | .table entries => some ⟨true, entries⟩
  | .list items =>
    if exact && names.length < items.length then none else some ⟨false, names.zip items⟩
  | _ => none

def orDefault {α : Type} (fields : Fields) (name : String) (read : Document → Option α)
    (default : α) : Option α :=
  match Assoc.get? name fields.values with
  | some document => read document
  | none => some default

def required {α : Type} (fields : Fields) (name : String) (read : Document → Option α) :
    Option α :=
  (Assoc.get? name fields.values).bind read

/-- The value of a field that may be missing under its name, but not in its place. -/
def optional {α : Type} (fields : Fields) (name : String) (read : Document → Option α) :
    Option (Option α) :=
  match Assoc.get? name fields.values with
  | some .null => some none
  | some document => (read document).map some
  | none => if fields.named then some none else none

end Fields

namespace Document

def text? : Document → Option String
  | text s => some s
  | _ => none

def natural? (bits : Nat) : Document → Option Nat
  | int n => if 0 ≤ n ∧ n < Nat.pow 2 bits then some n.toNat else none
  | _ => none

def textOrNull? : Document → Option (Option String)
  | null => some none
  | text s => some (some s)
  | _ => none

def texts? : Document → Option (List (String × String))
  | table entries => do
    let pairs ← entries.mapM fun entry => entry.2.text?.map (entry.1, ·)
    some (Assoc.sortedOfPairs pairs)
  | _ => none

end Document

end FluentQuery
