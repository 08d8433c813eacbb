import FluentQuery.Assoc
import FluentQuery.Json.Token

/-!
Reading JSON texts. A machine takes the tokens one by one; its stack holds the arrays and objects
that are still open. Of a key that occurs twice the last value and the first place count.
-/
namespace FluentQuery.Json

/-- An open array with the items before this one, last first, or an open object with the entries
before this one and the key whose value is being read. -/
inductive Frame where
  | items (done : List Json)
  | entries (done : List (String × Json)) (key : String)
deriving Repr, BEq, Inhabited

/-- What has been read, and so what may come next. -/
inductive Stage where
  /-- a value has to come -/
  | value (stack : List Frame)
  /-- an array has just been opened -/
  | firstItem (stack : List Frame)
  /-- an object has just been opened -/
  | firstKey (stack : List Frame)
  /-- a comma has been read in an object -/
  | key (done : List (String × Json)) (stack : List Frame)
  /-- a key has been read -/
  | colon (done : List (String × Json)) (key : String) (stack : List Frame)
  /-- a value is complete -/
  | complete (value : Json) (stack : List Frame)
deriving Repr, BEq, Inhabited

/-- The stage after the first token of a value. At most `limit` arrays and objects are open at
once. -/
def beginValue (limit : Nat) (stack : List Frame) : Token → Option Stage
  | .scalar j => some (.complete j stack)
  | .text s => some (.complete (.str s) stack)
  | .openArray => if stack.length < limit then some (.firstItem stack) else none
  | .openObject => if stack.length < limit then some (.firstKey stack) else none
  | _ => none

def advance (limit : Nat) : Stage → Token → Option Stage
  | .value stack, token => beginValue limit stack token
  | .firstItem stack, .closeArray => some (.complete (.arr []) stack)
  | .firstItem stack, token => beginValue limit (.items [] :: stack) token
  | .firstKey stack, .closeObject => some (.complete (.obj []) stack)
  | .firstKey stack, .text key => some (.colon [] key stack)
  | .key done stack, .text key => some (.colon done key stack)
  | .colon done key stack, .colon => some (.value (.entries done key :: stack))
  | .complete j (.items done :: stack), .comma => some (.value (.items (j :: done) :: stack))
  | .complete j (.items done :: stack), .closeArray =>
    some (.complete (.arr (j :: done).reverse) stack)
  | .complete j (.entries done key :: stack), .comma => some (.key (Assoc.put key j done) stack)
  | .complete j (.entries done key :: stack), .closeObject =>
    some (.complete (.obj (Assoc.put key j done)) stack)
  | _, _ => none

def Stage.result : Stage → Option Json
  | .complete j [] => some j
  | _ => none

def depthLimit : Nat := 127

def ofChars? (cs : List Char) : Option Json := do
  let tokens ← tokens? cs
  let stage ← tokens.foldlM (advance depthLimit) (.value [])
  stage.result

def ofText? (s : String) : Option Json := ofChars? s.toList

end FluentQuery.Json
