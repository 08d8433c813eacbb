import FluentQuery.Assoc
import FluentQuery.Document

/-!
Tables of TOML documents while they are defined. Each table remembers how it came to be, because
that decides what may still be added to it; a value is closed for good.
-/
namespace FluentQuery.Toml

inductive Origin where
  /-- by a heading of its own -/
  | heading
  /-- because the heading of a table inside it names it -/
  | implied
  /-- because a key with dots leads through it -/
  | dotted
deriving DecidableEq, Repr, Inhabited

inductive Node where
  | value (document : Document)
  | table (origin : Origin) (entries : List (String × Node))
  /-- an array of tables, each begun by a heading; only the last of them is still open -/
  | tables (earlier : List (List (String × Node))) (last : List (String × Node))
deriving Repr, Inhabited

abbrev Entries := List (String × Node)

/-- Changes the table that a heading's path leads to. Tables on the way that do not exist are
implied; an array of tables stands for its last table. -/
def underHeading (change : Entries → Option Entries) : List String → Entries → Option Entries
  | [], entries => change entries
  | key :: path, entries => match Assoc.get? key entries with
    | none => do
      let inner ← underHeading change path []
      some (Assoc.put key (.table .implied inner) entries)
    | some (.table origin inner) => do
      let inner ← underHeading change path inner
      some (Assoc.put key (.table origin inner) entries)
    | some (.tables earlier last) => do
      let last ← underHeading change path last
      some (Assoc.put key (.tables earlier last) entries)
    | some (.value _) => none

/-- Changes the table that a dotted key leads to. It may not lead through a table with a heading
of its own. -/
def underDots (change : Entries → Option Entries) : List String → Entries → Option Entries
  | [], entries => change entries
  | key :: path, entries => match Assoc.get? key entries with
    | none => do
      let inner ← underDots change path []
      some (Assoc.put key (.table .dotted inner) entries)
    | some (.table .heading _) => none
    | some (.table origin inner) => do
      let inner ← underDots change path inner
      some (Assoc.put key (.table origin inner) entries)
    | some _ => none

/-- Gives a new key its value. -/
def assign (keys : List String) (document : Document) (entries : Entries) : Option Entries := do
  let last ← keys.getLast?
  underDots (fun inner =>
    if (Assoc.get? last inner).isSome then none else some (inner ++ [(last, .value document)]))
    keys.dropLast entries

/-- Begins the table of a heading. A table may have one heading. -/
def beginTable (keys : List String) (entries : Entries) : Option Entries := do
  let last ← keys.getLast?
  underHeading (fun inner => match Assoc.get? last inner with
    | none => some (inner ++ [(last, .table .heading [])])
    | some (.table .implied entries) => some (Assoc.put last (.table .heading entries) inner)
    | some _ => none) keys.dropLast entries

/-- Begins a further table of an array of tables. -/
def beginItem (keys : List String) (entries : Entries) : Option Entries := do
  let last ← keys.getLast?
  underHeading (fun inner => match Assoc.get? last inner with
    | none => some (inner ++ [(last, .tables [] [])])
    | some (.tables earlier current) =>
      some (Assoc.put last (.tables (earlier ++ [current]) []) inner)
    | some _ => none) keys.dropLast entries

mutual

def Node.document : Node → Document
  | .value document => document
  | .table _ entries => .table (entryDocuments entries)
  | .tables earlier last => .list (tableDocuments earlier ++ [.table (entryDocuments last)])

def entryDocuments : List (String × Node) → List (String × Document)
  | [] => []
  | (key, node) :: entries => (key, node.document) :: entryDocuments entries

def tableDocuments : List (List (String × Node)) → List Document
  | [] => []
  | entries :: tables => .table (entryDocuments entries) :: tableDocuments tables

end

end FluentQuery.Toml
