import FluentQuery.Table.Basic
import FluentQuery.Text.Display

/-!
Displays of tables. The password of a remote table is not shown.
-/
namespace FluentQuery

def Display.secret : String := Display.quoted "***"

def Display.optionalText (text : Option String) : String :=
  Display.option (text.map Display.quoted)

def Handle.display (handle : Handle) : String :=
  Display.record "ReaderHandle" [("name", Display.quoted handle.name)]

def RemoteTable.display (t : RemoteTable) : String :=
  Display.record "RemoteTable" [
    ("host", Display.quoted t.host),
    ("port", naturalText t.port.toNat),
    ("database", Display.quoted t.database),
    ("table", Display.quoted t.table),
    ("user", Display.quoted t.user),
    ("password", Display.secret),
    ("schema", Display.optionalText t.schema)]

def FileTable.display (t : FileTable) : String :=
  Display.record "FileSource" [
    ("path", Display.quoted t.path),
    ("format", Display.quoted t.format)]

def Table.display : Table → String
  | .reader handle => Display.case "Reader" (Display.option (handle.map Handle.display))
  | .remote t => Display.case "Remote" t.display
  | .file t => Display.case "File" t.display
  | .raw text => Display.case "Raw" (Display.quoted text)

end FluentQuery
