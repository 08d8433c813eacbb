import FluentQuery.Json.Number
import FluentQuery.Text.Scan

/-!
The tokens of a JSON text: brackets, separators, strings and the other scalars.
-/
namespace FluentQuery.Json

inductive Token where
  | openArray
  | closeArray
  | openObject
  | closeObject
  | comma
  | colon
  | text (s : String)
  | scalar (j : Json)
deriving Repr, BEq, Inhabited

/-- The character of an escape by code units, after the letter `u`, and how many characters that
takes. A unit of a surrogate pair needs its partner. -/
def unitEscape? (cs : List Char) : Option (Char × Nat) := do
  let unit ← Text.hexLead? 4 cs
  if 0xD800 ≤ unit ∧ unit < 0xDC00 then
    match cs.drop 4 with
    | '\\' :: 'u' :: rest =>
      let low ← Text.hexLead? 4 rest
      if 0xDC00 ≤ low ∧ low < 0xE000 then
        some (Char.ofNat (0x10000 + (unit - 0xD800) * 0x400 + (low - 0xDC00)), 10)
      else none
    | _ => none
  else if 0xDC00 ≤ unit ∧ unit < 0xE000 then none
  else some (Char.ofNat unit, 4)

/-- The character that the front of a string's body stands for, and how many characters it takes
after its first. -/
def bodyChar? : List Char → Option (Char × Nat)
  | '\\' :: c :: rest => match c with
    | '"' => some ('"', 1)
    | '\\' => some ('\\', 1)
    | '/' => some ('/', 1)
    | 'b' => some ('\x08', 1)
    | 'f' => some ('\x0c', 1)
    | 'n' => some ('\n', 1)
    | 'r' => some ('\r', 1)
    | 't' => some ('\t', 1)
    | 'u' => (unitEscape? rest).map fun (c, n) => (c, n + 1)
    | _ => none
  | '\\' :: [] => none
  | c :: _ => if c.toNat < 0x20 then none else some (c, 0)
  | [] => none

/-- The characters of a string's body up to its closing quote, and how many characters the body
takes with the quote. -/
def bodyFrom : Nat → List Char → Option (List Char × Nat)
  | _, [] => none
  | k + 1, _ :: cs => (bodyFrom k cs).map fun (body, n) => (body, n + 1)
  | 0, c :: cs =>
    if c = '"' then some ([], 1)
    else match bodyChar? (c :: cs) with
      | none => none
      | some (character, more) =>
        (bodyFrom more cs).map fun (body, n) => (character :: body, n + 1)

/-- The token at the front of a text, none for a blank, and how many characters it takes after
its first. -/
def nextToken (cs : List Char) : Option (Nat × Option Token) :=
  match cs with
  | [] => none
  | c :: rest => match c with
    | ' ' | '\t' | '\n' | '\r' => some (0, none)
    | '[' => some (0, some .openArray)
    | ']' => some (0, some .closeArray)
    | '\x7b' => some (0, some .openObject)
    | '\x7d' => some (0, some .closeObject)
    | ',' => some (0, some .comma)
    | ':' => some (0, some .colon)
    | '"' => (bodyFrom 0 rest).map fun (body, n) => (n, some (.text (String.ofList body)))
    | 't' => if (Text.afterLead "rue".toList rest).isSome then
        some (3, some (.scalar (.bool true))) else none
    | 'f' => if (Text.afterLead "alse".toList rest).isSome then
        some (4, some (.scalar (.bool false))) else none
    | 'n' => if (Text.afterLead "ull".toList rest).isSome then
        some (3, some (.scalar .null)) else none
    | _ => (number? cs).map fun (j, n) => (n - 1, some (.scalar j))

def tokens? (cs : List Char) : Option (List Token) := Text.tokensFrom nextToken 0 cs

end FluentQuery.Json
