import FluentQuery.Proofs.Execution
import Mathlib.Data.List.Induction

/-!
The distinct readers of a plan. Main statement: they are listed in the order of their first places
among the tables; a plan with at most one of them makes one call of the engine, with the first of
them attached, and a plan with more makes none and fails with an error that names them all.
-/
namespace FluentQuery

theorem Table.handle?_eq_some_iff {table : Table} {handle : Handle} :
    table.handle? = some handle ↔ table = .reader (some handle) := by
  cases table <;> simp [Table.handle?]

/-- The distinct readers of tables, in order of first appearance. -/
def distinctHandles (tables : List Table) : List Handle :=
  (tables.filterMap Table.handle?).foldl
    (fun found handle => if handle ∈ found then found else found ++ [handle]) []

theorem distinctHandles_concat (tables : List Table) (table : Table) :
    distinctHandles (tables ++ [table]) = distinctHandles tables ++
      table.handle?.toList.filter (· ∉ distinctHandles tables) := by
  unfold distinctHandles
  rw [List.filterMap_append, List.foldl_append]
  cases hhandle : table.handle? with
  | none => simp [hhandle]
  | some handle =>
    rw [List.filterMap_cons_some hhandle]
    by_cases hfound : handle ∈ distinctHandles tables
    all_goals
      rw [distinctHandles] at hfound
      simp [hfound]

theorem mem_distinctHandles_iff {tables : List Table} {handle : Handle} :
    handle ∈ distinctHandles tables ↔ Table.reader (some handle) ∈ tables := by
  induction tables using List.reverseRecOn with
  | nil => simp [distinctHandles]
  | append_singleton tables table ih =>
    have hlast : handle ∈ table.handle?.toList ↔ Table.reader (some handle) = table := by
      rw [Option.mem_toList, Table.handle?_eq_some_iff, eq_comm]
    rw [distinctHandles_concat, List.mem_append, List.mem_append, List.mem_filter, hlast,
      List.mem_singleton]
    simp only [ih, decide_eq_true_eq]
    by_cases hlisted : Table.reader (some handle) ∈ tables <;> simp [hlisted]

/-- The readers stand in the order of their first places. -/
theorem pairwise_distinctHandles (tables : List Table) :
    (distinctHandles tables).Pairwise fun first second =>
      tables.idxOf (.reader (some first)) < tables.idxOf (.reader (some second)) := by
  induction tables using List.reverseRecOn with
  | nil => exact List.Pairwise.nil
  | append_singleton tables table ih =>
    have hplaces : ∀ handle ∈ distinctHandles tables, Table.reader (some handle) ∈ tables :=
      fun handle hh => mem_distinctHandles_iff.1 hh
    have hold := Assoc.pairwise_places_concat hplaces ih table
    rw [distinctHandles_concat]
    cases hhandle : table.handle? with
    | none => simpa using hold
    | some handle =>
      by_cases hlisted : handle ∈ distinctHandles tables
      · simpa [hlisted] using hold
      · obtain rfl := Table.handle?_eq_some_iff.1 hhandle
        have hnew : Table.reader (some handle) ∉ tables := mt mem_distinctHandles_iff.2 hlisted
        simpa [hlisted] using Assoc.pairwise_places_new hplaces ih hnew

namespace Plan

variable {σ : Type}

theorem handles_eq (plan : Plan) :
    plan.handles = if plan.raw.isSome then [] else distinctHandles plan.tables := rfl

def recorded (engine : Engine σ) : Engine (σ × List Statement) :=
  fun statement (state, calls) =>
    ((engine statement state).1, (engine statement state).2, calls ++ [statement])

theorem statement_eq (plan : Plan) (format : OutputFormat) :
    plan.statement format =
      if plan.handles.length ≤ 1 then .ok ⟨plan.sql, format, plan.handle?⟩
      else .error (.severalReaders (plan.handles.map Handle.name)) := by
  rw [statement]
  rcases plan.handles with _ | ⟨handle, _ | ⟨second, handles⟩⟩
  · rfl
  · rfl
  · simp

theorem execute_eq (plan : Plan) (engine : Engine σ) (format : OutputFormat) (state : σ) :
    plan.execute engine format state =
      if plan.handles.length ≤ 1 then engine ⟨plan.sql, format, plan.handle?⟩ state
      else (.error (.severalReaders (plan.handles.map Handle.name)), state) := by
  rw [execute, statement_eq]
  by_cases hone : plan.handles.length ≤ 1
  · rw [if_pos hone, if_pos hone]
  · rw [if_neg hone, if_neg hone]

theorem mem_handles_iff {plan : Plan} (hraw : plan.raw = none) {handle : Handle} :
    handle ∈ plan.handles ↔ Table.reader (some handle) ∈ plan.tables := by
  rw [handles_eq, hraw, Option.isSome_none, if_neg Bool.false_ne_true, mem_distinctHandles_iff]

theorem handles_of_raw {plan : Plan} (hraw : plan.raw ≠ none) : plan.handles = [] := by
  rw [handles_eq, if_pos (Option.isSome_iff_ne_none.2 hraw)]

theorem pairwise_handles (plan : Plan) :
    plan.handles.Pairwise fun first second =>
      plan.tables.idxOf (.reader (some first)) < plan.tables.idxOf (.reader (some second)) := by
  rw [handles_eq]
  split
  · exact List.Pairwise.nil
  · exact pairwise_distinctHandles plan.tables

theorem nodup_handles (plan : Plan) : plan.handles.Nodup := by
  refine plan.pairwise_handles.imp fun {first second} hlt => ?_
  rintro rfl
  exact Nat.lt_irrefl _ hlt

/-- The readers of a plan are those attached to its tables, none for a raw plan, in the order of
their first places. With at most one of them, the engine is called once, with the statement, the
format and the first reader, and its result is the plan's. With more of them the engine is not
called, and the error names them in order. -/
theorem execute_hands_over (plan : Plan) (format : OutputFormat) :
    (∀ handle, handle ∈ plan.handles ↔
      plan.raw = none ∧ Table.reader (some handle) ∈ plan.tables) ∧
    (plan.handles.Pairwise fun first second =>
      plan.tables.idxOf (.reader (some first)) < plan.tables.idxOf (.reader (some second))) ∧
    plan.handle? = plan.handles.head? ∧
    ∀ {σ : Type} (engine : Engine σ) (state : σ) (calls : List Statement),
      let statement : Statement := ⟨plan.sql, format, plan.handle?⟩
      let refusal := Error.severalReaders (plan.handles.map Handle.name)
      (plan.execute engine format state =
        if plan.handles.length ≤ 1 then engine statement state else (.error refusal, state)) ∧
      (plan.execute (recorded engine) format (state, calls)).2.2 =
        calls ++ (if plan.handles.length ≤ 1 then [statement] else []) ∧
      refusal.kind = .validation ∧
      refusal.message = "Validation error: " ++ ("query reads from more than one reader (" ++
        ", ".intercalate (plan.handles.map Handle.name) ++ "); only one can be attached") := by
  refine ⟨fun handle => ?_, plan.pairwise_handles, plan.handle?_eq_head?, ?_⟩
  · by_cases hraw : plan.raw = none
    · rw [mem_handles_iff hraw, and_iff_right hraw]
    · simp [handles_of_raw hraw, hraw]
  · intro σ engine state calls statement refusal
    refine ⟨plan.execute_eq engine format state, ?_, rfl, rfl⟩
    rw [execute_eq]
    split
    · rfl
    · exact (List.append_nil calls).symm

/-- Two readers of one name, the second of which is joined twice. -/
example :
    let visits : Handle := ⟨0, "visits"⟩
    let older : Handle := ⟨1, "visits"⟩
    let join (handle : Handle) : JoinClause := ⟨.reader (some handle), "v", ⟨[("id", "id")]⟩⟩
    let plan : Plan := ⟨.raw "users", "u", [], [], [join older, join visits, join older],
      none, false, none, none⟩
    plan.handles = [older, visits] := by
  decide

end Plan

end FluentQuery
