import FluentQuery.Embedded.Executor
import FluentQuery.Sql.Parser
import FluentQuery.Sql.Select

/-!
The executor over a small database of its own, which knows the commands of this project's parser
and nothing of views, foreign keys, indexes and transactions. Results about the executor are stated
for every connection; this one runs.
-/
namespace FluentQuery

open Sql

namespace Sql

/-- The state of a connection to the small database. A query that is prepared again has the headings
that it had the first time. -/
structure Session where
  database : Database
  headings : List (String × List String)
deriving DecidableEq, Repr, Inhabited

namespace Session

def run? (session : Session) (sql : String) (parameters : List Cell) :
    Option (Answer × Database) :=
  (Command.ofText? sql).bind fun command => command.run? parameters session.database

/-- Headings that are known, or those of the answer that the text would have now. -/
def headingsFor? (session : Session) (sql : String) : Option (List String) :=
  (Assoc.get? sql session.headings).or ((session.run? sql []).map fun run => run.1.headings)

def connection : Connection Session where
  execute sql parameters session := match session.run? sql parameters with
    | none => (false, session)
    | some (_, database) => (true, { session with database := database })
  prepare sql session := match session.headingsFor? sql with
    | none => (none, session)
    | some headings =>
      (some headings, { session with headings := Assoc.put sql headings session.headings })
  fetch sql session := match session.run? sql [] with
    | none => (none, session)
    | some (answer, database) => (some answer.rows, { session with database := database })

end Session

end Sql

abbrev Embedded := Executor Session

namespace Embedded

def empty : Embedded := ⟨⟨.empty, []⟩, Executor.defaultBatch⟩

def engine : Engine (Embedded × Shelf) := Executor.engine Session.connection

end Embedded

end FluentQuery
