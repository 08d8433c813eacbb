import FluentQuery.Text.Printable

/-!
Displays of structured data for a developer: quoted texts, named fields, lists and maps on one
line.
-/
namespace FluentQuery.Display

def hexadecimal (n : Nat) : List Char := Nat.toDigits 16 n

/-- A character between double quotes: the quote, the backslash and the usual controls by
escapes, what cannot be shown by its code point, and all else as it is. -/
def escaped : Char → List Char
  | '"' => ['\\', '"']
  | '\\' => ['\\', '\\']
  | '\n' => ['\\', 'n']
  | '\r' => ['\\', 'r']
  | '\t' => ['\\', 't']
  | '\x00' => ['\\', '0']
  | c => if Text.isPrintable c then [c] else "\\u\x7b".toList ++ hexadecimal c.toNat ++ ['\x7d']

def quoted (s : String) : String := "\"" ++ String.ofList (s.toList.flatMap escaped) ++ "\""

def list (items : List String) : String := "[" ++ ", ".intercalate items ++ "]"

def pair (left right : String) : String := "(" ++ left ++ ", " ++ right ++ ")"

def case (name argument : String) : String := name ++ "(" ++ argument ++ ")"

def option : Option String → String
  | none => "None"
  | some s => case "Some" s

def record (name : String) (fields : List (String × String)) : String :=
  name ++ " \x7b " ++ ", ".intercalate (fields.map fun f => f.1 ++ ": " ++ f.2) ++ " \x7d"

def map (entries : List (String × String)) : String :=
  "\x7b" ++ ", ".intercalate (entries.map fun e => e.1 ++ ": " ++ e.2) ++ "\x7d"

def bool (b : Bool) : String := if b then "true" else "false"

end FluentQuery.Display
