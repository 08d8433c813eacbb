import FluentQuery.Proofs.DistinctReaders
import FluentQuery.Proofs.RedirectedPlan

/-!
The readers that are attached to a plan. Main statement: a plan with an attached reader calls the
engine, and with that reader, just where no other reader is attached; otherwise it is refused before
the engine is called. A table function without a reader does not count, and so it stands for the
attached one in such a call.
-/
namespace FluentQuery.Plan

variable {plan : Plan}

/-- Where all attached readers are the same one, the plan has just that one. -/
theorem handles_eq_singleton (hraw : plan.raw = none) {handle : Handle}
    (hmem : Table.reader (some handle) ∈ plan.tables)
    (hall : ∀ other, Table.reader (some other) ∈ plan.tables → other = handle) :
    plan.handles = [handle] := by
  have hhandles : ∀ other ∈ plan.handles, other = handle :=
    fun other ho => hall other ((mem_handles_iff hraw).1 ho)
  have hreplicate := List.eq_replicate_of_mem hhandles
  have hnodup := nodup_handles plan
  rw [hreplicate, List.nodup_replicate] at hnodup
  have hpos : 0 < plan.handles.length :=
    List.length_pos_of_mem ((mem_handles_iff hraw).2 hmem)
  rw [hreplicate, show plan.handles.length = 1 by omega]
  rfl

/-- Running the plan fails in the same way with every engine, none of which is called. -/
def Refused (plan : Plan) (format : OutputFormat) : Prop :=
  ∃ e : Error, e.kind = .validation ∧ ∀ {σ : Type} (engine : Engine σ) (state : σ),
    plan.execute engine format state = (.error e, state)

theorem refused_of_two_handles (format : OutputFormat) (h : 1 < plan.handles.length) :
    plan.Refused format := by
  refine ⟨.severalReaders (plan.handles.map Handle.name), rfl, fun engine state => ?_⟩
  rw [execute_eq, if_neg (Nat.not_le.2 h)]

/-- A plan with an attached reader. If no other one is attached, it calls the engine with that
reader, and all table functions of readers in it are that reader's just where none is without one.
If another one is attached, the plan is refused. -/
theorem calls_or_refused (hraw : plan.raw = none) {handle : Handle}
    (hmem : Table.reader (some handle) ∈ plan.tables) (format : OutputFormat) :
    ((∀ other, Table.reader (some other) ∈ plan.tables → other = handle) →
      plan.Calls format ⟨plan.sql, format, some handle⟩ ∧
        ((∀ table ∈ plan.tables, table.isReader = true → table = .reader (some handle)) ↔
          Table.reader none ∉ plan.tables)) ∧
    (∀ other, Table.reader (some other) ∈ plan.tables → other ≠ handle → plan.Refused format) := by
  refine ⟨fun hall => ⟨?_, ?_⟩, fun other hother hne => ?_⟩
  · rw [calls_iff, statement_eq_ok_iff, handles_eq_singleton hraw hmem hall]
    exact ⟨Nat.le_refl 1, rfl⟩
  · constructor
    · intro hreaders hnone
      have h := hreaders _ hnone rfl
      cases h
    · intro hnone table ht hr
      obtain ⟨attached, rfl⟩ := Table.exists_reader hr
      cases attached with
      | none => exact absurd ht hnone
      | some other => rw [hall other ht]
  · have ho := (mem_handles_iff hraw).2 hother
    have hh := (mem_handles_iff hraw).2 hmem
    refine refused_of_two_handles format (Nat.lt_of_not_le fun hle => hne ?_)
    obtain ⟨only, hlist⟩ := List.length_eq_one_iff.1
      (Nat.le_antisymm hle (List.length_pos_of_mem hh))
    rw [hlist, List.mem_singleton] at ho hh
    rw [ho, hh]

/-- A plan over a reader that is joined to itself is run, and it is refused once another reader is
joined as well. -/
theorem calls_or_refused_users :
    let users : Handle := ⟨0, "users"⟩
    let orders : Handle := ⟨1, "orders"⟩
    let itself : JoinClause := ⟨.reader (some users), "u", ⟨[("id", "friend")]⟩⟩
    let joined : JoinClause := ⟨.reader (some orders), "o", ⟨[("id", "user_id")]⟩⟩
    let plan : Plan := ⟨.reader (some users), "users", [], [], [itself], none, false, none, none⟩
    let mixed : Plan := { plan with joins := [itself, joined] }
    plan.Calls .csv ⟨plan.sql, .csv, some users⟩ ∧ mixed.Refused .csv := by
  intro users orders itself joined plan mixed
  have hmem : Table.reader (some users) ∈ plan.tables := List.mem_cons_self
  have hmixed : Table.reader (some users) ∈ mixed.tables := List.mem_cons_self
  have hone : ∀ other, Table.reader (some other) ∈ plan.tables → other = users := by
    simp [plan, itself, tables]
  have horders : Table.reader (some orders) ∈ mixed.tables := by
    simp [mixed, joined, tables]
  exact ⟨((calls_or_refused rfl hmem .csv).1 hone).1,
    (calls_or_refused rfl hmixed .csv).2 orders horders (by decide)⟩

/-- A plan that mixes a reader with a table function that has none is run with the reader. -/
theorem calls_with_unattached_reader :
    ∃ (plan : Plan) (handle : Handle) (statement : Statement), plan.raw = none ∧
      statement.reader = some handle ∧ plan.Calls .json statement ∧
      ¬ ∀ table ∈ plan.tables, table.isReader = true → table = .reader (some handle) := by
  let plan : Plan := ⟨.reader (some ⟨0, "users"⟩), "users", [], [],
    [⟨.reader none, "python", ⟨[("id", "user_id")]⟩⟩], none, false, none, none⟩
  refine ⟨plan, ⟨0, "users"⟩, ⟨plan.sql, .json, some ⟨0, "users"⟩⟩, rfl, rfl, ?_, fun hall => ?_⟩
  · exact calls_iff.2 rfl
  · have h := hall (.reader none) (by simp [plan, tables]) rfl
    cases h

end FluentQuery.Plan
