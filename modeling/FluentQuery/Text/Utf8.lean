/-!
Reading bytes as UTF-8. Bytes that belong to no character are read as the replacement character,
one for each longest start of a character that then breaks off.
-/
namespace FluentQuery.Text

def replacement : Char := '\ufffd'

/-- The ranges of the bytes that follow a first byte; none if no character starts with it. -/
def followers (first : Nat) : Option (List (Nat × Nat)) :=
  let tail := (0x80, 0xBF)
  if first < 0x80 then some []
  else if first < 0xC2 then none
  else if first < 0xE0 then some [tail]
  else if first = 0xE0 then some [(0xA0, 0xBF), tail]
  else if first = 0xED then some [(0x80, 0x9F), tail]
  else if first < 0xF0 then some [tail, tail]
  else if first = 0xF0 then some [(0x90, 0xBF), tail, tail]
  else if first < 0xF4 then some [tail, tail, tail]
  else if first = 0xF4 then some [(0x80, 0x8F), tail, tail]
  else none

/-- How many bytes fall into the ranges, one after another. -/
def fitting : List (Nat × Nat) → List UInt8 → Nat
  | range :: ranges, b :: bytes =>
    if range.1 ≤ b.toNat ∧ b.toNat ≤ range.2 then fitting ranges bytes + 1 else 0
  | _, _ => 0

/-- The bits of a first byte that belong to the character, by the number of bytes after it. -/
def leadBits (first more : Nat) : Nat :=
  if more = 0 then first else first % Nat.pow 2 (6 - more)

/-- The character at the front, and how many bytes it takes after its first. -/
def leadingChar (first : UInt8) (rest : List UInt8) : Char × Nat :=
  match followers first.toNat with
  | none => (replacement, 0)
  | some ranges =>
    let more := fitting ranges rest
    if more = ranges.length then
      (Char.ofNat ((rest.take more).foldl (fun n b => n * 64 + b.toNat % 64)
        (leadBits first.toNat more)), more)
    else (replacement, more)

/-- The characters of the bytes; the counter says how many bytes still belong to the last one. -/
def readableFrom : Nat → List UInt8 → List Char
  | _, [] => []
  | k + 1, _ :: bytes => readableFrom k bytes
  | 0, b :: bytes =>
    let (c, more) := leadingChar b bytes
    c :: readableFrom more bytes

def readable (bytes : List UInt8) : String := String.ofList (readableFrom 0 bytes)

end FluentQuery.Text
