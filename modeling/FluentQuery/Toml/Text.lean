import FluentQuery.Text.Scan

/-!
Gaps, keys and strings of TOML documents.
-/
namespace FluentQuery.Toml

/-- A control character that may stand nowhere but as part of a line end. -/
def isControl (c : Char) : Bool := (c.toNat < 0x20 && c ≠ '\t') || c.toNat = 0x7F

def skipGap (cs : List Char) : List Char := cs.dropWhile fun c => c = ' ' || c = '\t'

def afterLineEnd : List Char → Option (List Char)
  | '\n' :: cs => some cs
  | '\r' :: '\n' :: cs => some cs
  | _ => none

/-- What follows a comment, if one stands here; a comment holds no control characters. -/
def skipComment (cs : List Char) : Option (List Char) :=
  match cs with
  | '#' :: rest =>
    let left := rest.dropWhile fun c => !isControl c
    if left.isEmpty || (afterLineEnd left).isSome then some left else none
  | _ => some cs

/-- Drops gaps, comments and line ends, as often as the fuel says. -/
def skipLines : Nat → List Char → Option (List Char)
  | 0, cs => some cs
  | fuel + 1, cs => do
    let left ← skipComment (skipGap cs)
    match afterLineEnd left with
    | some rest => skipLines fuel rest
    | none => some left

/-- A character after a backslash, and how many characters the escape takes after the
backslash. -/
def escape? : List Char → Option (Char × Nat)
  | c :: rest => match c with
    | 'b' => some ('\x08', 1)
    | 't' => some ('\t', 1)
    | 'n' => some ('\n', 1)
    | 'f' => some ('\x0c', 1)
    | 'r' => some ('\r', 1)
    | 'e' => some ('\x1b', 1)
    | '"' => some ('"', 1)
    | '\\' => some ('\\', 1)
    | 'x' => coded 2 rest
    | 'u' => coded 4 rest
    | 'U' => coded 8 rest
    | _ => none
  | [] => none
where
  coded (width : Nat) (rest : List Char) : Option (Char × Nat) := do
    let n ← Text.hexLead? width rest
    if n.isValidChar then some (Char.ofNat n, width + 1) else none

/-- The contents of a string between double quotes and what follows it; the counter says how many
characters are still covered by the last escape. -/
def basicFrom : Nat → List Char → Option (List Char × List Char)
  | _, [] => none
  | k + 1, _ :: cs => basicFrom k cs
  | 0, c :: cs =>
    if c = '"' then some ([], cs)
    else if c = '\\' then match escape? cs with
      | some (character, n) => (basicFrom n cs).map fun (body, rest) => (character :: body, rest)
      | none => none
    else if isControl c then none
    else (basicFrom 0 cs).map fun (body, rest) => (c :: body, rest)

/-- The contents of a string between single quotes and what follows it. -/
def literalFrom (cs : List Char) : Option (List Char × List Char) :=
  match cs.span fun c => c ≠ '\'' && !isControl c with
  | (body, '\'' :: rest) => some (body, rest)
  | _ => none

/-- How many quotes of a run belong to a string of several lines that the run ends, and what
follows its three closing ones. -/
def closing? (quote : Char) (cs : List Char) : Option (Nat × List Char) :=
  let run := min 5 (cs.takeWhile (· = quote)).length
  if run < 3 then none else some (run - 3, cs.drop run)

/-- Whether a backslash here ends its line, and how many characters it joins to nothing. -/
def lineJoin? (cs : List Char) : Option Nat :=
  let gap := cs.takeWhile fun c => c = ' ' || c = '\t'
  match afterLineEnd (cs.drop gap.length) with
  | some _ => some (cs.takeWhile fun c => c = ' ' || c = '\t' || c = '\n' || c = '\r').length
  | none => none

/-- The contents of a string of several lines between double quotes. -/
def longBasicFrom : Nat → List Char → Option (List Char × List Char)
  | _, [] => none
  | k + 1, _ :: cs => longBasicFrom k cs
  | 0, c :: cs =>
    match closing? '"' (c :: cs) with
    | some (quotes, rest) => some (List.replicate quotes '"', rest)
    | none =>
      if c = '\\' then match lineJoin? cs with
        | some n => longBasicFrom n cs
        | none => match escape? cs with
          | some (character, n) =>
            (longBasicFrom n cs).map fun (body, rest) => (character :: body, rest)
          | none => none
      else if isControl c && c ≠ '\n' && (afterLineEnd (c :: cs)).isNone then none
      else (longBasicFrom 0 cs).map fun (body, rest) => (c :: body, rest)

/-- The contents of a string of several lines between single quotes. -/
def longLiteralFrom : List Char → Option (List Char × List Char)
  | [] => none
  | c :: cs =>
    match closing? '\'' (c :: cs) with
    | some (quotes, rest) => some (List.replicate quotes '\'', rest)
    | none =>
      if isControl c && c ≠ '\n' && (afterLineEnd (c :: cs)).isNone then none
      else (longLiteralFrom cs).map fun (body, rest) => (c :: body, rest)

/-- A line end at the front of a string of several lines does not belong to it. -/
def dropFirstLineEnd (cs : List Char) : List Char := (afterLineEnd cs).getD cs

def takeString (cs : List Char) : Option (String × List Char) :=
  let found := match cs with
    | '"' :: '"' :: '"' :: rest => longBasicFrom 0 (dropFirstLineEnd rest)
    | '\'' :: '\'' :: '\'' :: rest => longLiteralFrom (dropFirstLineEnd rest)
    | '"' :: rest => basicFrom 0 rest
    | '\'' :: rest => literalFrom rest
    | _ => none
  found.map fun (body, rest) => (String.ofList body, rest)

def isBareKey (c : Char) : Bool := c.isAlphanum || c = '_' || c = '-'

def takeKeyPart (cs : List Char) : Option (String × List Char) :=
  let found := match cs with
    | '"' :: rest => basicFrom 0 rest
    | '\'' :: rest => literalFrom rest
    | _ =>
      let (bare, rest) := cs.span isBareKey
      if bare.isEmpty then none else some (bare, rest)
  found.map fun (body, rest) => (String.ofList body, rest)

/-- A key of parts with dots between them, and what follows it; the fuel bounds the number of
parts. -/
def takeKey : Nat → List Char → Option (List String × List Char)
  | 0, _ => none
  | fuel + 1, cs => do
    let (part, rest) ← takeKeyPart (skipGap cs)
    match skipGap rest with
    | '.' :: rest =>
      let (parts, rest) ← takeKey fuel rest
      some (part :: parts, rest)
    | rest => some ([part], rest)

end FluentQuery.Toml
