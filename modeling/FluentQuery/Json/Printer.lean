import FluentQuery.Json.Basic
import FluentQuery.Number.Integer
import FluentQuery.Number.Layout

/-!
The compact text of a JSON value: no blanks, keys in their order, and no escapes but those that
the grammar demands.
-/
namespace FluentQuery.Json

def escaped : Char → List Char
  | '"' => ['\\', '"']
  | '\\' => ['\\', '\\']
  | '\x08' => ['\\', 'b']
  | '\x0c' => ['\\', 'f']
  | '\n' => ['\\', 'n']
  | '\r' => ['\\', 'r']
  | '\t' => ['\\', 't']
  | c =>
    if c.toNat < 0x10 then "\\u000".toList ++ Nat.toDigits 16 c.toNat
    else if c.toNat < 0x20 then "\\u00".toList ++ Nat.toDigits 16 c.toNat
    else [c]

def quoted (s : String) : List Char := '"' :: s.toList.flatMap escaped ++ ['"']

mutual

def chars : Json → List Char
  | .null => "null".toList
  | .bool b => if b then "true".toList else "false".toList
  | .int n => integerChars n.val
  | .float x => x.chars .json
  | .str s => quoted s
  | .arr items => '[' :: itemChars items ++ [']']
  | .obj entries => '\x7b' :: entryChars entries ++ ['\x7d']

def itemChars : List Json → List Char
  | [] => []
  | [item] => item.chars
  | item :: items => item.chars ++ ',' :: itemChars items

def entryChars : List (String × Json) → List Char
  | [] => []
  | [(key, value)] => quoted key ++ ':' :: value.chars
  | (key, value) :: entries => quoted key ++ ':' :: value.chars ++ ',' :: entryChars entries

end

def text (j : Json) : String := String.ofList j.chars

@[simp] theorem toList_text (j : Json) : j.text.toList = j.chars := by simp [text]

end FluentQuery.Json
