import FluentQuery.Sql.Syntax
import FluentQuery.Text.Blank

/-!
Reading commands. Each reader answers what it read and the lexemes after it, or nothing where the
command is refused.
-/
namespace FluentQuery.Sql

abbrev Reading (α : Type) := List Lexeme → Option (α × List Lexeme)

/-- The words that cannot be names. -/
def reservedWords : List String := [
  "add", "all", "alter", "and", "as", "autoincrement", "between", "case", "check", "collate",
  "commit", "constraint", "create", "default", "deferrable", "delete", "distinct", "drop", "else",
  "escape", "except", "exists", "foreign", "from", "group", "having", "in", "index", "insert",
  "intersect", "into", "is", "isnull", "join", "limit", "not", "nothing", "notnull", "null", "on",
  "or", "order", "primary", "references", "returning", "select", "set", "table", "then", "to",
  "transaction", "union", "unique", "update", "using", "values", "when", "where"]

/-- The words that can be names, but neither aliases without `AS` nor types. -/
def joiningWords : List String :=
  ["cross", "full", "indexed", "inner", "left", "natural", "outer", "right"]

/-- The words that can be names, but not aliases of operands without `AS`. -/
def matchingWords : List String := ["glob", "like", "match", "regexp"]

/-- The words that can be names, but not at the front of an operand. -/
def leadingWords : List String :=
  ["cast", "current_date", "current_time", "current_timestamp", "raise"]

/-- Whether the lexeme is this word in any case; the word is given in small letters. -/
def Lexeme.isWord (lexeme : Lexeme) (word : String) : Bool :=
  match lexeme.token with
  | .word name => Text.lowered name = word
  | _ => false

/-- The name that a token is, other than the reserved words and those that are refused. -/
def Token.name? (refused : List String) : Token → Option String
  | .word name =>
    let word := Text.lowered name
    if reservedWords.contains word || refused.contains word then none else some name
  | .quoted name _ => some name
  | .text s => some s
  | _ => none

def takeWord (word : String) : List Lexeme → Option (List Lexeme)
  | lexeme :: rest => if lexeme.isWord word then some rest else none
  | [] => none

def takeMark (c : Char) : List Lexeme → Option (List Lexeme)
  | lexeme :: rest => if lexeme.token = .mark c then some rest else none
  | [] => none

def takeName (refused : List String) : Reading String
  | lexeme :: rest => (lexeme.token.name? refused).map (·, rest)
  | [] => none

/-- Reads one or more, with commas between them; the fuel bounds their number. -/
def takeList {α : Type} (take : Reading α) : Nat → Reading (List α)
  | 0, _ => none
  | fuel + 1, lexemes => do
    let (first, rest) ← take lexemes
    match takeMark ',' rest with
    | some rest =>
      let (others, rest) ← takeList take fuel rest
      some (first :: others, rest)
    | none => some ([first], rest)

/-- Reads a list between parentheses. -/
def takeParenthesized {α : Type} (take : Reading α) : Reading (List α) := fun lexemes => do
  let lexemes ← takeMark '(' lexemes
  let (items, rest) ← takeList take lexemes.length lexemes
  some (items, ← takeMark ')' rest)

/-- Reads an alias, if one stands here; after `AS` it may be any name. -/
def takeAlias (refused : List String) : Reading (Option String) := fun lexemes =>
  match takeWord "as" lexemes with
  | some rest => (takeName [] rest).map fun (name, rest) => (some name, rest)
  | none => match takeName refused lexemes with
    | some (name, rest) => some (some name, rest)
    | none => some (none, lexemes)

def integerCell (n : Int) : Cell :=
  match int64? n with
  | some n => .integer n
  | none => .real (.ofInt _ n)

/-- The number that a token is, with a sign. -/
def numberCell? (negative : Bool) : Token → Option Cell
  | .integer n => some (integerCell (if negative then -n else n))
  | .decimal d => some (.real ((Decimal.mk negative d.coefficient d.exponent).toBinary _))
  | _ => none

def takeColumn : Reading Operand := fun lexemes => do
  let (first, rest) ← takeName leadingWords lexemes
  match takeMark '.' rest with
  | some rest =>
    let (name, rest) ← takeName [] rest
    some (.column (some first) name false, rest)
  | none => match lexemes with
    | ⟨.quoted _ double, _, _⟩ :: _ => some (.column none first double, rest)
    | _ => some (.column none first false, rest)

def takeOperand : Reading Operand
  | [] => none
  | lexeme :: rest => match lexeme.token with
    | .text s => match takeMark '.' rest with
      | some _ => takeColumn (lexeme :: rest)
      | none => some (.value (.text s), rest)
    | .blob bytes => some (.value (.blob bytes), rest)
    | .parameter index => some (.parameter index, rest)
    | .mark '-' => signed true rest
    | .mark '+' => signed false rest
    | token => match numberCell? false token with
      | some cell => some (.value cell, rest)
      | none =>
        if lexeme.isWord "null" then some (.value .null, rest) else takeColumn (lexeme :: rest)
where
  signed (negative : Bool) : Reading Operand
    | lexeme :: rest => (numberCell? negative lexeme.token).map (.value ·, rest)
    | [] => none

/-- Reads the number of rows, with what stands between its parentheses. -/
def takeCount (lexemes : List Lexeme) : Option (List Lexeme) := do
  let rest ← takeWord "count" lexemes
  takeMark ')' (← takeMark '*' (← takeMark '(' rest))

def takeItem : Reading Item := fun lexemes =>
  let starred := do
    let (table, rest) ← takeName leadingWords lexemes
    let rest ← takeMark '*' (← takeMark '.' rest)
    some (Item.allOf table, rest)
  let taken (rest : List Lexeme) : String := spanText (lexemes.take (lexemes.length - rest.length))
  match takeMark '*' lexemes with
  | some rest => some (.all, rest)
  | none => match starred, takeCount lexemes with
    | some result, _ => some result
    | none, some rest =>
      (takeAlias (joiningWords ++ matchingWords) rest).map fun (aliasName, after) =>
        (.count aliasName (taken rest), after)
    | none, none => do
      let (operand, rest) ← takeOperand lexemes
      let (aliasName, after) ← takeAlias (joiningWords ++ matchingWords) rest
      some (.operand operand aliasName (taken rest), after)

def takeRelation : Reading Relation
  | lexeme :: rest => match lexeme.token with
    | .relation r => some (r, rest)
    | _ => if lexeme.isWord "like" then some (.like, rest) else none
  | [] => none

/-- Reads one or more conditions with `AND` between them; the fuel bounds their number. -/
def takeConditions : Nat → Reading (List Condition)
  | 0, _ => none
  | fuel + 1, lexemes => do
    let (left, rest) ← takeOperand lexemes
    let (relation, rest) ← takeRelation rest
    let (right, rest) ← takeOperand rest
    match takeWord "and" rest with
    | some rest =>
      let (others, rest) ← takeConditions fuel rest
      some (⟨left, relation, right⟩ :: others, rest)
    | none => some ([⟨left, relation, right⟩], rest)

def takeTable : Reading TableUse := fun lexemes => do
  let (name, rest) ← takeName [] lexemes
  let (aliasName, rest) ← takeAlias joiningWords rest
  some (⟨name, aliasName⟩, rest)

/-- Reads the joins that stand here, each with its conditions; the fuel bounds their number. -/
def takeJoins : Nat → Reading (List TableUse × List Condition)
  | 0, lexemes => some (([], []), lexemes)
  | fuel + 1, lexemes => match takeWord "join" lexemes with
    | none => some (([], []), lexemes)
    | some rest => do
      let (table, rest) ← takeTable rest
      let rest ← takeWord "on" rest
      let (conditions, rest) ← takeConditions rest.length rest
      let ((tables, others), rest) ← takeJoins fuel rest
      some ((table :: tables, conditions ++ others), rest)

def takeTables : Reading (List TableUse × List Condition) := fun lexemes =>
  match takeWord "from" lexemes with
  | none => some (([], []), lexemes)
  | some rest => do
    let (table, rest) ← takeTable rest
    let ((tables, conditions), rest) ← takeJoins rest.length rest
    some ((table :: tables, conditions), rest)

def takeWhere : Reading (List Condition) := fun lexemes =>
  match takeWord "where" lexemes with
  | none => some ([], lexemes)
  | some rest => takeConditions rest.length rest

def takeLimit : Reading (Option Operand) := fun lexemes =>
  match takeWord "limit" lexemes with
  | none => some (none, lexemes)
  | some rest => (takeOperand rest).map fun (operand, rest) => (some operand, rest)

def takeQuery : Reading Command := fun lexemes => do
  let (items, rest) ← takeList takeItem lexemes.length lexemes
  let ((tables, joined), rest) ← takeTables rest
  let (conditions, rest) ← takeWhere rest
  let (limit, rest) ← takeLimit rest
  some (.query ⟨items, tables, joined ++ conditions, limit⟩, rest)

/-- Reads the words of a type; the fuel bounds their number. -/
def takeTypeWords : Nat → List Lexeme → List Lexeme
  | 0, lexemes => lexemes
  | fuel + 1, lexemes => match takeName joiningWords lexemes with
    | some (_, rest) => takeTypeWords fuel rest
    | none => lexemes

def takeSizes : Reading (List Cell) := takeParenthesized fun lexemes =>
  match takeOperand lexemes with
  | some (.value (.integer n), rest) => some (.integer n, rest)
  | some (.value (.real x), rest) => some (.real x, rest)
  | _ => none

def takeDeclaration : Reading Column := fun lexemes => do
  let (name, rest) ← takeName [] lexemes
  let after := takeTypeWords rest.length rest
  let after ← match takeMark '(' after with
    | none => some after
    | some _ =>
      if after.length = rest.length then none
      else (takeSizes after).bind fun (sizes, after) =>
        if sizes.length ≤ 2 then some after else none
  some (⟨name, .ofType (spanText (rest.take (rest.length - after.length)))⟩, after)

def takeCreation : Reading Command := fun lexemes => do
  let temporary := (takeWord "temp" lexemes).or (takeWord "temporary" lexemes)
  let rest ← takeWord "table" (temporary.getD lexemes)
  let (table, rest) ← takeName [] rest
  let (columns, rest) ← takeParenthesized takeDeclaration rest
  some (.create temporary.isSome table columns, rest)

def takeInsertion : Reading Command := fun lexemes => do
  let (table, rest) ← takeName [] (← takeWord "into" lexemes)
  let (columns, rest) ← match takeMark '(' rest with
    | none => some (none, rest)
    | some _ => (takeParenthesized (takeName []) rest).map fun (columns, rest) =>
      (some columns, rest)
  let rest ← takeWord "values" rest
  let (rows, rest) ← takeList (takeParenthesized takeOperand) rest.length rest
  some (.insert table columns rows, rest)

def takeRemoval : Reading Command := fun lexemes => do
  let rest ← takeWord "table" lexemes
  let condition := (takeWord "if" rest).bind (takeWord "exists")
  let (table, rest) ← takeName [] (condition.getD rest)
  some (.drop condition.isSome table, rest)

def takeCommand : Reading Command := fun lexemes =>
  match takeWord "select" lexemes, takeWord "create" lexemes, takeWord "insert" lexemes with
  | some rest, _, _ => takeQuery rest
  | _, some rest, _ => takeCreation rest
  | _, _, some rest => takeInsertion rest
  | _, _, _ => (takeWord "drop" lexemes).bind takeRemoval

/-- The command that lexemes are. Semicolons may stand before and after it. -/
def Command.ofLexemes? (lexemes : List Lexeme) : Option Command :=
  let isEnd (lexeme : Lexeme) : Bool := lexeme.token = .mark ';'
  match lexemes.dropWhile isEnd with
  | [] => some .nothing
  | lexemes => match takeCommand lexemes with
    | some (command, rest) => if rest.all isEnd then some command else none
    | none => none

def Command.ofText? (s : String) : Option Command :=
  (lexemes? (Text.trimmed s.toList)).bind Command.ofLexemes?

end FluentQuery.Sql
