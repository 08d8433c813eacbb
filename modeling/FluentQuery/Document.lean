import FluentQuery.Json.Basic

/-!
Documents: what a configuration may be read from, whatever its notation. A setting is never a
floating-point number, so of those only the kind is kept.
-/
namespace FluentQuery

inductive Document where
  | null
  | bool (b : Bool)
  | int (n : Int)
  | float
  | text (s : String)
  | list (items : List Document)
  | table (entries : List (String × Document))
deriving Repr, BEq, Inhabited

namespace Document

mutual

def ofJson : Json → Document
  | .null => .null
  | .bool b => .bool b
  | .int n => .int n.val
  | .float _ => .float
  | .str s => .text s
  | .arr items => .list (ofJsons items)
  | .obj entries => .table (ofEntries entries)

def ofJsons : List Json → List Document
  | [] => []
  | item :: items => ofJson item :: ofJsons items

def ofEntries : List (String × Json) → List (String × Document)
  | [] => []
  | (key, value) :: entries => (key, ofJson value) :: ofEntries entries

end

end Document

end FluentQuery
