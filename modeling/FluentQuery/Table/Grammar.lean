import FluentQuery.Table.Basic
import FluentQuery.Text.Scan
import FluentQuery.Text.Word

/-!
Reading tables from text. The table functions of readers, files and remote tables are recognised
where they are the whole text, blanks at its ends aside; every other text is a raw table.
-/
namespace FluentQuery.Table

def takeQuoted : List Char → Option (List Char × List Char)
  | '\'' :: cs => match cs.span (· ≠ '\'') with
    | (content, _ :: rest) => some (content, rest)
    | (_, []) => none
  | _ => none

def afterComma : List Char → Option (List Char)
  | ',' :: cs => some (Text.trimFront cs)
  | _ => none

def takeField (cs : List Char) : Option (List Char × List Char) := do
  takeQuoted (← afterComma cs)

/-- A run of digits that is the number of a port, and what follows it. -/
def takePort (cs : List Char) : Option (UInt16 × List Char) :=
  let (digits, rest) := cs.span Char.isDigit
  let port := Nat.ofDigitChars 10 digits 0
  if digits.isEmpty || 65535 < port then none else some (UInt16.ofNat port, rest)

/-- Whether the text is the table function of a reader, with any word as its argument. -/
def isReaderText (cs : List Char) : Bool :=
  match Text.afterLead "Python(".toList cs with
  | some argument => argument.dropWhile Text.isWord == [')']
  | none => false

def fileOfChars? (cs : List Char) : Option FileTable := do
  let cs ← Text.afterLead "file(".toList cs
  let (path, cs) ← takeQuoted cs
  let (format, cs) ← takeField cs
  if cs = [')'] then some ⟨String.ofList path, String.ofList format⟩ else none

/-- The end of a remote table's function: a schema or none, and the closing bracket. -/
def schemaOfChars? (cs : List Char) : Option (Option String) :=
  if cs = [')'] then some none
  else do
    let cs ← Text.afterLead "schema=".toList (← afterComma cs)
    let (schema, cs) ← takeQuoted cs
    if cs = [')'] then some (some (String.ofList schema)) else none

def remoteOfChars? (cs : List Char) : Option RemoteTable := do
  let cs ← Text.afterLead "postgresql('".toList cs
  let (host, cs) := cs.span fun c => c ≠ '\'' && c ≠ ':'
  let cs ← Text.afterLead [':'] cs
  let (port, cs) ← takePort cs
  let cs ← Text.afterLead ['\''] cs
  let (database, cs) ← takeField cs
  let (table, cs) ← takeField cs
  let (user, cs) ← takeField cs
  let (password, cs) ← takeField cs
  let schema ← schemaOfChars? cs
  some ⟨String.ofList host, port, String.ofList database, String.ofList table, String.ofList user,
    String.ofList password, schema⟩

def ofText (s : String) : Table :=
  let cs := Text.trimmed s.toList
  if isReaderText cs then reader none
  else match fileOfChars? cs, remoteOfChars? cs with
    | some t, _ => file t
    | none, some t => remote t
    | none, none => raw s

end FluentQuery.Table
