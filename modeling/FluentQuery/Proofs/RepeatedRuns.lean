import FluentQuery.Proofs.Draining
import FluentQuery.Proofs.EngineCalls
import FluentQuery.Proofs.SessionLaws

/-!
Running a query again, over any connection that keeps the laws. Main statement: over a memory reader
at its start, a query gives the same answer however often it was run before and whatever the size of
the batches, the reader is at its start again, and a table that was made for it is gone.
-/
namespace FluentQuery

open Sql Embedded

section Passes

variable {σ ρ : Type} {connection : Connection σ} {sight : Sight σ ρ} {schema : Schema}
  {rows : List (List Json)} {sql : String}

end Passes

namespace Executor

variable {σ ρ : Type} {connection : Connection σ} {sight : Sight σ ρ} {statement : Statement}
  {handle : Handle} {shelf : Shelf} {executor : Executor σ} {schema : Schema}

section Calls

variable {loading : Except Error (Schema × List (List Json))}

section Repeated

variable (laws : Laws connection sight) (hreader : statement.reader = some handle)
  (hsql : Selects connection sight ((redirect? statement.sql).getD statement.sql))
  (hquotes : ∀ schema rows, loading = .ok (schema, rows) → (redirect? statement.sql).isSome →
    Unquoted schema)

include laws hreader hsql hquotes

end Repeated

end Calls

end Executor

end FluentQuery
