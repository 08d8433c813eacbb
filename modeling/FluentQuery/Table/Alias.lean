import FluentQuery.Table.Grammar

/-!
The alias that a table gets where none is given. Readers are known by their names; the aliases of
files and remote tables are found in their table functions.
-/
namespace FluentQuery.Table

def takeNamed (field : List Char × List Char) : Option (List Char × List Char) :=
  if field.1.isEmpty then none else some field

theorem takeNamed_eq (field : List Char × List Char) :
    takeNamed field = if field.1 = [] then none else some field := by
  simp [takeNamed]

def remoteNames? (cs : List Char) : Option (List Char × List Char) := do
  let cs ← Text.afterLead "postgresql(".toList cs
  let (server, cs) := cs.span (· ≠ ',')
  if server.isEmpty then none
  else
    let (database, cs) ← takeNamed (← takeField cs)
    let (table, _) ← takeNamed (← takeField cs)
    some (database, table)

def filePath? (cs : List Char) : Option (List Char) := do
  let cs ← Text.afterLead "file(".toList cs
  let (path, cs) ← takeNamed (← takeQuoted cs)
  let _ ← takeNamed (← takeField cs)
  some path

/-- The last part of a path, without its last dot and what follows that. -/
def stem (path : List Char) : List Char :=
  let base := match Text.splitLast '/' path with
    | some (_, base) => base
    | none => path
  match Text.splitLast '.' base with
  | some (stem, _) => stem
  | none => base

theorem stem_eq (path : List Char) :
    stem path =
      let base := ((Text.splitLast '/' path).map Prod.snd).getD path
      ((Text.splitLast '.' base).map Prod.fst).getD base := by
  have hread : ∀ base : List Char,
      (match Text.splitLast '.' base with
        | some (stem, _) => stem
        | none => base) = ((Text.splitLast '.' base).map Prod.fst).getD base := fun base => by
    cases Text.splitLast '.' base <;> rfl
  unfold stem
  cases Text.splitLast '/' path <;> exact hread _

/-- The alias of a remote table: its database and its name, or a fixed one. -/
def remoteAlias (sql : String) : String :=
  match Text.firstAmong remoteNames? sql.toList with
  | some (database, table) => String.ofList database ++ "_" ++ String.ofList table
  | none => "pg"

/-- The alias of a file: the stem of its path, or a fixed one. -/
def fileAlias (sql : String) : String :=
  match Text.firstAmong filePath? sql.toList with
  | some path => if (stem path).isEmpty then "file" else String.ofList (stem path)
  | none => "file"

def aliasName : Table → String
  | reader (some handle) => handle.name
  | reader none => "python"
  | remote t => remoteAlias t.sql
  | file t => fileAlias t.sql
  | raw _ => "table"

end FluentQuery.Table
