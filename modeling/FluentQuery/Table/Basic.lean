import FluentQuery.Number.Integer
import FluentQuery.Reader.Shelf
import FluentQuery.Text.Blank
import FluentQuery.Value.Basic

/-!
Tables: where the rows of a query come from, and how a table is named in a statement.
-/
namespace FluentQuery

structure RemoteTable where
  host : String
  port : UInt16
  database : String
  table : String
  user : String
  password : String
  schema : Option String
deriving DecidableEq, Repr, Inhabited

structure FileTable where
  path : String
  format : String
deriving DecidableEq, Repr, Inhabited

inductive Table where
  /-- the rows of a reader, which may not be attached yet -/
  | reader (handle : Option Handle)
  | remote (table : RemoteTable)
  | file (table : FileTable)
  /-- any other text, which stands in statements as it is -/
  | raw (text : String)
deriving DecidableEq, Repr, Inhabited

def RemoteTable.sql (t : RemoteTable) : String :=
  "postgresql(" ++ singleQuoted (t.host ++ ":" ++ naturalText t.port.toNat) ++ ", " ++
    singleQuoted t.database ++ ", " ++ singleQuoted t.table ++ ", " ++ singleQuoted t.user ++
    ", " ++ singleQuoted t.password ++
    (match t.schema with
      | some schema => ", schema=" ++ singleQuoted schema
      | none => "") ++ ")"

def FileTable.sql (t : FileTable) : String :=
  "file(" ++ singleQuoted t.path ++ ", " ++ singleQuoted t.format ++ ")"

namespace Table

def readerFunction : String := "Python(reader)"

def sql : Table → String
  | reader _ => readerFunction
  | remote t => t.sql
  | file t => t.sql
  | raw text => text

def handle? : Table → Option Handle
  | reader handle => handle
  | _ => none

def isEmpty : Table → Bool
  | raw text => Text.blank text
  | _ => false

end Table

end FluentQuery
