import FluentQuery.Toml.Scalar
import FluentQuery.Toml.Table

/-!
Reading TOML documents: values, then lines, then the document that the lines define one after
another.
-/
namespace FluentQuery.Toml

def inlineTable (pairs : List (List String × Document)) : Option Document := do
  let entries ← pairs.foldlM (fun entries pair => assign pair.1 pair.2 entries) []
  some (.table (entryDocuments entries))

mutual

def takeValue : Nat → List Char → Option (Document × List Char)
  | 0, _ => none
  | fuel + 1, cs => match cs with
    | '"' :: _ => (takeString cs).map fun (s, rest) => (.text s, rest)
    | '\'' :: _ => (takeString cs).map fun (s, rest) => (.text s, rest)
    | '[' :: rest => (takeItems fuel rest).map fun (items, rest) => (.list items, rest)
    | '\x7b' :: rest => do
      let (pairs, rest) ← takePairs fuel rest
      some (← inlineTable pairs, rest)
    | _ =>
      let (text, rest) := takeScalarText cs
      (scalar? text).map fun document => (document, rest)

/-- The items of an array up to its closing bracket; a comma may stand after the last. -/
def takeItems : Nat → List Char → Option (List Document × List Char)
  | 0, _ => none
  | fuel + 1, cs => do
    match ← skipLines cs.length cs with
    | ']' :: rest => some ([], rest)
    | cs =>
      let (item, rest) ← takeValue fuel cs
      match ← skipLines rest.length rest with
      | ',' :: rest =>
        let (items, rest) ← takeItems fuel rest
        some (item :: items, rest)
      | ']' :: rest => some ([item], rest)
      | _ => none

/-- The keys and values of a table up to its closing brace; a comma may stand after the last. -/
def takePairs : Nat → List Char → Option (List (List String × Document) × List Char)
  | 0, _ => none
  | fuel + 1, cs => do
    match ← skipLines cs.length cs with
    | '\x7d' :: rest => some ([], rest)
    | cs =>
      let (key, rest) ← takeKey cs.length cs
      let rest ← Text.afterLead ['='] rest
      let (document, rest) ← takeValue fuel (skipGap rest)
      match ← skipLines rest.length rest with
      | ',' :: rest =>
        let (pairs, rest) ← takePairs fuel rest
        some ((key, document) :: pairs, rest)
      | '\x7d' :: rest => some ([(key, document)], rest)
      | _ => none

end

inductive Line where
  | assign (keys : List String) (document : Document)
  | table (keys : List String)
  | item (keys : List String)
deriving Repr, Inhabited

/-- What the line at the front says, and what follows on it. -/
def takeLine (cs : List Char) : Option (Line × List Char) :=
  match cs with
  | '[' :: '[' :: rest => do
    let (keys, rest) ← takeKey rest.length rest
    some (.item keys, ← Text.afterLead "]]".toList rest)
  | '[' :: rest => do
    let (keys, rest) ← takeKey rest.length rest
    some (.table keys, ← Text.afterLead [']'] rest)
  | _ => do
    let (keys, rest) ← takeKey cs.length cs
    let rest ← Text.afterLead ['='] rest
    let (document, rest) ← takeValue (2 * rest.length + 1) (skipGap rest)
    some (.assign keys document, rest)

/-- The lines that say something, each alone on its line; the fuel bounds their number. -/
def takeLines : Nat → List Char → Option (List Line)
  | 0, _ => none
  | fuel + 1, cs => do
    match ← skipLines cs.length cs with
    | [] => some []
    | cs =>
      let (line, rest) ← takeLine cs
      let rest ← skipComment (skipGap rest)
      if rest.isEmpty then some [line]
      else
        let lines ← takeLines fuel (← afterLineEnd rest)
        some (line :: lines)

/-- The document so far, and the heading under which the next line stands. -/
structure Progress where
  entries : Entries
  heading : List String
deriving Repr, Inhabited

def Progress.add (progress : Progress) : Line → Option Progress
  | .assign keys document => do
    let entries ← underHeading (assign keys document) progress.heading progress.entries
    some { progress with entries := entries }
  | .table keys => (beginTable keys progress.entries).map (⟨·, keys⟩)
  | .item keys => (beginItem keys progress.entries).map (⟨·, keys⟩)

/-- The document that a text is. A byte order mark at the front is passed over. -/
def ofText? (s : String) : Option Document := do
  let cs := match s.toList with
    | '\ufeff' :: rest => rest
    | cs => cs
  let lines ← takeLines (cs.length + 1) cs
  let progress ← lines.foldlM Progress.add ⟨[], []⟩
  some (.table (entryDocuments progress.entries))

end FluentQuery.Toml
