import FluentQuery.Calendar
import FluentQuery.Json.Printer

/-!
Values that stand as literals in statements. A text is put between single quotes as it is: a
quote inside it is not escaped.
-/
namespace FluentQuery

inductive Value where
  | null
  | bool (b : Bool)
  | int32 (n : Int32)
  | int64 (n : Int64)
  | float32 (x : Single)
  | float64 (x : Double)
  | string (s : String)
  | json (j : Json)
  | array (items : List Value)
  | dateTime (t : DateTime)
deriving Repr, Inhabited

def singleQuoted (s : String) : String := "'" ++ s ++ "'"

namespace Value

def isNull : Value → Bool
  | null => true
  | _ => false

def items? : Value → Option (List Value)
  | array items => some items
  | _ => none

mutual

def literal : Value → String
  | .null => "NULL"
  | .bool b => if b then "true" else "false"
  | .int32 n => integerText n.toInt
  | .int64 n => integerText n.toInt
  | .float32 x => x.literal
  | .float64 x => x.literal
  | .string s => singleQuoted s
  | .json j => singleQuoted j.text
  | .array items => "[" ++ ",".intercalate (literals items) ++ "]"
  | .dateTime t => singleQuoted t.toSecondText

def literals : List Value → List String
  | [] => []
  | item :: items => item.literal :: literals items

end

theorem literals_eq_map (items : List Value) : literals items = items.map literal := by
  induction items with
  | nil => rfl
  | cons item items ih => simp [literals, ih]

mutual

/-- The value of a JSON value: integers of 64 bits stay integers, all other numbers become
floating-point ones, and an object is kept as it is. -/
def ofJson : Json → Value
  | .null => .null
  | .bool b => .bool b
  | .int n => match int64? n.val with
    | some i => .int64 i
    | none => .float64 (Binary.ofInt .double n.val)
  | .float x => .float64 (.finite x)
  | .str s => .string s
  | .arr items => .array (ofJsons items)
  | .obj entries => .json (.obj entries)

def ofJsons : List Json → List Value
  | [] => []
  | item :: items => ofJson item :: ofJsons items

end

theorem ofJsons_eq_map (items : List Json) : ofJsons items = items.map ofJson := by
  induction items with
  | nil => rfl
  | cons item items ih => simp [ofJsons, ih]

def ofVector (components : List Single) : Value := .array (components.map .float32)

end Value

end FluentQuery
