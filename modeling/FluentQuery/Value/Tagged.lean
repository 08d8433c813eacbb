import FluentQuery.Value.Basic

/-!
Values as JSON, each under the name of its case. Reading accepts whatever writing gives, and
integers where a floating-point number is expected.
-/
namespace FluentQuery.Value

def tagged (name : String) (payload : Json) : Json := .obj [(name, payload)]

mutual

/-- The tagged form of a value; a number that is not finite leaves null under its name. -/
def toTagged : Value → Json
  | .null => .str "Null"
  | .bool b => tagged "Bool" (.bool b)
  | .int32 n => tagged "I32" (.ofInt64 n.toInt64)
  | .int64 n => tagged "I64" (.ofInt64 n)
  | .float32 x => tagged "F32" (.ofDouble (x.convert .double))
  | .float64 x => tagged "F64" (.ofDouble x)
  | .string s => tagged "String" (.str s)
  | .json j => tagged "Json" j
  | .array items => tagged "Array" (.arr (toTaggedList items))
  | .dateTime t => tagged "DateTime" (.str t.isoText)

def toTaggedList : List Value → List Json
  | [] => []
  | item :: items => toTagged item :: toTaggedList items

end

def double? : Json → Option Double
  | .int n => some (Binary.ofInt .double n.val)
  | .float x => some (.finite x)
  | _ => none

/-- The number of a JSON value, in the format of 32 bits: an integer is rounded once, any other
number from its 64 bits. -/
def single? : Json → Option Single
  | .int n => some (Binary.ofInt .single n.val)
  | .float x => some (Binary.convert .single (.finite x))
  | _ => none

mutual

def ofTagged? : Json → Option Value
  | .str "Null" => some .null
  | .obj [(name, payload)] => match name, payload with
    | "Null", .null => some .null
    | "Bool", .bool b => some (.bool b)
    | "I32", .int n => (int32? n.val).map .int32
    | "I64", .int n => (int64? n.val).map .int64
    | "F32", j => (single? j).map .float32
    | "F64", j => (double? j).map .float64
    | "String", .str s => some (.string s)
    | "Json", j => some (.json j)
    | "Array", .arr items => (ofTaggedList? items).map .array
    | "DateTime", .str s => (DateTime.ofText? s).map .dateTime
    | _, _ => none
  | _ => none

def ofTaggedList? : List Json → Option (List Value)
  | [] => some []
  | item :: items => match ofTagged? item, ofTaggedList? items with
    | some value, some values => some (value :: values)
    | _, _ => none

end

end FluentQuery.Value
