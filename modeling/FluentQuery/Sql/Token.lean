import FluentQuery.Sql.Cell
import FluentQuery.Text.Scan

/-!
The lexemes of a statement: each is a token with its text and the gap after it, so that the
lexemes together are the statement.
-/
namespace FluentQuery.Sql

inductive Relation where
  | eq
  | ne
  | lt
  | le
  | gt
  | ge
  | like
deriving DecidableEq, Repr, Inhabited

/-- A token. A name in double quotes may also stand for a text; parameters are numbered from
zero. -/
inductive Token where
  | word (name : String)
  | quoted (name : String) (double : Bool)
  | text (s : String)
  | integer (n : Nat)
  | decimal (d : Decimal)
  | blob (bytes : List UInt8)
  | parameter (index : Nat)
  | relation (r : Relation)
  | mark (c : Char)
deriving DecidableEq, Repr, Inhabited

structure Lexeme where
  token : Token
  text : List Char
  gap : List Char
deriving DecidableEq, Repr, Inhabited

def isNameStart (c : Char) : Bool := c.isAlpha || c = '_' || 0x80 ≤ c.toNat

def isNameChar (c : Char) : Bool := isNameStart c || c.isDigit || c = '$'

/-- The contents of a quotation up to its closing quote, which is written twice where it is meant,
and how many characters that takes with the closing quote. -/
def quotedBody (quote : Char) : List Char → Option (List Char × Nat)
  | [] => none
  | [c] => if c = quote then some ([], 1) else none
  | c :: d :: cs =>
    if c = quote then
      if d = quote then (quotedBody quote cs).map fun (body, n) => (quote :: body, n + 2)
      else some ([], 1)
    else (quotedBody quote (d :: cs)).map fun (body, n) => (c :: body, n + 1)

/-- The bytes that are written as pairs of digits in base sixteen. -/
def bytesOfDigits : List Char → Option (List UInt8)
  | [] => some []
  | [_] => none
  | a :: b :: cs => do
    let n ← Text.hexNumber? [a, b]
    return UInt8.ofNat n :: (← bytesOfDigits cs)

/-- A blob after its letter and its first quote, and how many characters it takes from there. -/
def blobBody (cs : List Char) : Option (List UInt8 × Nat) :=
  match cs.span (· ≠ '\'') with
  | (digits, '\'' :: _) => (bytesOfDigits digits).map (·, digits.length + 1)
  | _ => none

/-- A number and its length; no character of a name may follow it. -/
def number? (cs : List Char) : Option (Token × Nat) :=
  match Decimal.takeUnsigned false cs with
  | none => none
  | some (d, rest) =>
    let length := cs.length - rest.length
    if (rest.head?.map isNameChar).getD false then none
    else if (cs.take length).all Char.isDigit then some (.integer d.coefficient, length)
    else some (.decimal d, length)

/-- How many characters of a gap follow its first, if a gap stands here: blanks, a comment up to
the end of its line, or one between its marks. -/
def gap? : List Char → Option Nat
  | '-' :: '-' :: cs => some ((cs.takeWhile (· ≠ '\n')).length + 1)
  | '/' :: '*' :: cs =>
    if cs.isEmpty then none
    else match Text.splitFirst ['*', '/'] cs with
      | some (comment, _) => some (comment.length + 3)
      | none => some (cs.length + 1)
  | c :: cs =>
    if c = '\x0b' then none
    else if isNumeralBlank c then some (cs.takeWhile isNumeralBlank).length
    else if c = '\ufeff' then some 0
    else none
  | [] => none

def token? : List Char → Option (Token × Nat)
  | [] => none
  | c :: cs =>
    let relation (r : Relation) (more : Nat) : Option (Token × Nat) := some (.relation r, more)
    match c with
    | '\'' => (quotedBody c cs).map fun (body, n) => (.text (String.ofList body), n)
    | '"' => (quotedBody c cs).map fun (body, n) => (.quoted (String.ofList body) true, n)
    | '`' => (quotedBody c cs).map fun (body, n) => (.quoted (String.ofList body) false, n)
    | '[' => match cs.span (· ≠ ']') with
      | (name, ']' :: _) => some (.quoted (String.ofList name) false, name.length + 1)
      | _ => none
    | '=' => if cs.head? = some '=' then relation .eq 1 else relation .eq 0
    | '!' => if cs.head? = some '=' then relation .ne 1 else none
    | '<' => match cs.head? with
      | some '=' => relation .le 1
      | some '>' => relation .ne 1
      | _ => relation .lt 0
    | '>' => if cs.head? = some '=' then relation .ge 1 else relation .gt 0
    | '?' => some (.parameter 0, 0)
    | ';' | '(' | ')' | ',' | '*' | '-' | '+' => some (.mark c, 0)
    | _ =>
      if c.isDigit || (c = '.' && (cs.head?.map Char.isDigit).getD false) then
        (number? (c :: cs)).map fun (token, n) => (token, n - 1)
      else if c = '.' then some (.mark c, 0)
      else match c, cs with
        | 'x', '\'' :: rest => (blobBody rest).map fun (bytes, n) => (.blob bytes, n + 1)
        | 'X', '\'' :: rest => (blobBody rest).map fun (bytes, n) => (.blob bytes, n + 1)
        | _, _ =>
          if isNameStart c then
            let name := cs.takeWhile isNameChar
            some (.word (String.ofList (c :: name)), name.length)
          else none

/-- A gap or a lexeme without its gap, and how many characters it takes after its first. -/
def piece? (cs : List Char) : Option (Nat × Option (Option Token × List Char)) :=
  match gap? cs with
  | some n => some (n, some (none, cs.take (n + 1)))
  | none => (token? cs).map fun (token, n) => (n, some (some token, cs.take (n + 1)))

/-- The text of the gaps at the front, and the pieces after them. -/
def takeGaps : List (Option Token × List Char) → List Char × List (Option Token × List Char)
  | (none, gap) :: pieces =>
    let (more, rest) := takeGaps pieces
    (gap ++ more, rest)
  | pieces => ([], pieces)

/-- Joins the gaps to the lexemes before them; those before the first lexeme are dropped. -/
def joinGaps : List (Option Token × List Char) → List Lexeme
  | [] => []
  | (none, _) :: pieces => joinGaps pieces
  | (some token, text) :: pieces => ⟨token, text, (takeGaps pieces).1⟩ :: joinGaps pieces

def numbered : Nat → List Lexeme → List Lexeme
  | _, [] => []
  | n, lexeme :: lexemes => match lexeme.token with
    | .parameter _ => { lexeme with token := .parameter n } :: numbered (n + 1) lexemes
    | _ => lexeme :: numbered n lexemes

/-- The lexemes of a statement. It ends before a null character. -/
def lexemes? (cs : List Char) : Option (List Lexeme) := do
  let pieces ← Text.tokensFrom piece? 0 (cs.takeWhile (· ≠ '\x00'))
  return numbered 0 (joinGaps pieces)

/-- The text of lexemes without the blanks at their end. -/
def spanText (lexemes : List Lexeme) : String :=
  let cs := lexemes.flatMap fun lexeme => lexeme.text ++ lexeme.gap
  String.ofList (cs.reverse.dropWhile isNumeralBlank).reverse

end FluentQuery.Sql
