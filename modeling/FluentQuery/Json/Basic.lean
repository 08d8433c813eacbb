import FluentQuery.Assoc
import FluentQuery.Number.Binary

/-!
JSON values. Integers and other numbers are kept apart; objects keep the order of their keys.
-/
namespace FluentQuery

/-- The integers that a JSON number holds exactly: those of 64 bits, with or without a sign. -/
abbrev JsonInteger := { n : Int // -9223372036854775808 ≤ n ∧ n < 18446744073709551616 }

inductive Json where
  | null
  | bool (b : Bool)
  | int (n : JsonInteger)
  | float (x : Finite FloatFormat.double)
  | str (s : String)
  | arr (items : List Json)
  | obj (entries : List (String × Json))
deriving Repr, BEq, Inhabited

abbrev Record := List (String × Json)

namespace Json

def integer? (n : Int) : Option Json :=
  if h : -9223372036854775808 ≤ n ∧ n < 18446744073709551616 then some (.int ⟨n, h⟩) else none

def ofInt64 (n : Int64) : Json :=
  .int ⟨n.toInt, n.le_toInt, Int.lt_trans n.toInt_lt (by decide)⟩

/-- A natural number, the largest exact one if it is beyond them. -/
def ofNat (n : Nat) : Json :=
  .int ⟨(min n 18446744073709551615 : Nat), by omega, by omega⟩

/-- A number of the format of 64 bits; what is not finite has no number and becomes null. -/
def ofDouble : Double → Json
  | .finite x => .float x
  | _ => .null

def ofText : Option String → Json
  | some s => .str s
  | none => .null

def isNull : Json → Bool
  | null => true
  | _ => false

theorem isNull_eq_true_iff {j : Json} : j.isNull = true ↔ j = null := by
  cases j <;> simp [isNull]

theorem isNull_eq_false_iff {j : Json} : j.isNull = false ↔ j ≠ null := by
  rw [Ne, ← isNull_eq_true_iff, Bool.not_eq_true]

def text? : Json → Option String
  | str s => some s
  | _ => none

theorem text?_eq_some_iff {j : Json} {s : String} : j.text? = some s ↔ j = str s := by
  cases j <;> simp [text?]

def items? : Json → Option (List Json)
  | arr items => some items
  | _ => none

theorem items?_eq_some_iff {j : Json} {items : List Json} :
    j.items? = some items ↔ j = arr items := by
  cases j <;> simp [items?]

def entries? : Json → Option Record
  | obj entries => some entries
  | _ => none

def get? (j : Json) (key : String) : Option Json := j.entries?.bind (Assoc.get? key)

end Json

end FluentQuery
