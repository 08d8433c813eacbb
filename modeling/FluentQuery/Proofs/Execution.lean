import FluentQuery.Plan.Run

/-!
What an engine is called with when a plan runs, and what becomes of that call when an oracle is
asked about the plan first. Main statement: where the oracle hands the statement back, its answer
calls the engine with the same statement but with no reader, so that the call is the same just
where no reader is attached to the plan.
-/
namespace FluentQuery.Plan

/-- Running the plan is one call of the engine with this statement, whatever the engine. -/
def Calls (plan : Plan) (format : OutputFormat) (statement : Statement) : Prop :=
  ∀ {σ : Type} (engine : Engine σ) (state : σ),
    plan.execute engine format state = engine statement state

def noting : Engine (List Statement) := fun statement seen => (.ok "", seen ++ [statement])

theorem calls_iff {plan : Plan} {format : OutputFormat} {statement : Statement} :
    plan.Calls format statement ↔ plan.statement format = .ok statement := by
  constructor
  · intro h
    have hn := congrArg Prod.snd (h noting [])
    cases hs : plan.statement format with
    | error e => simp [execute, hs, noting] at hn
    | ok given =>
      simp only [execute, hs, noting, List.nil_append, List.cons.injEq, and_true] at hn
      rw [hn]
  · intro h σ engine state
    simp only [execute, h]

theorem head?_foldl_distinct (found rest : List Handle) :
    (rest.foldl (fun found handle => if handle ∈ found then found else found ++ [handle])
      found).head? = found.head?.or rest.head? := by
  induction rest generalizing found with
  | nil => simp
  | cons handle rest ih =>
    rw [List.foldl_cons, ih]
    split
    · next h => cases found <;> simp_all
    · cases found <;> simp

theorem handle?_eq_head? (plan : Plan) : plan.handle? = plan.handles.head? := by
  unfold handle? handles
  split
  · rfl
  · rw [head?_foldl_distinct, List.head?_filterMap]
    rfl

theorem statement_eq_ok_iff {plan : Plan} {format : OutputFormat} {statement : Statement} :
    plan.statement format = .ok statement ↔
      plan.handles.length ≤ 1 ∧ statement = ⟨plan.sql, format, plan.handles.head?⟩ := by
  rw [Plan.statement, handle?_eq_head?]
  split
  · next h => simp [h]
  · next h =>
    have hl : plan.handles.length ≤ 1 := by
      match hh : plan.handles with
      | [] => simp
      | [_] => simp
      | first :: second :: others => exact absurd hh (h first second others)
    simp [hl, eq_comm]

def echo (request : Oracle.Request) : Except Error String := .ok request.sql

theorem ask_echo (plan : Plan) (shelf : Shelf) (question : String) (cache : Bool) :
    plan.ask echo shelf question cache = .ok (ofSql plan.sql) := rfl

theorem statement_ofSql (sql : String) (format : OutputFormat) :
    (ofSql sql).statement format = .ok ⟨sql, format, none⟩ := rfl

/-- The plan that an echoing oracle answers with calls the engine with the statement and the format
of the plan itself, but with no reader. The call is the same if and only if the plan has none. -/
theorem answer_calls_iff (shelf : Shelf) (question : String) (cache : Bool) {plan : Plan}
    {format : OutputFormat} {statement : Statement} (h : plan.Calls format statement) :
    ∃ answer, plan.ask echo shelf question cache = .ok answer ∧
      answer.Calls format { statement with reader := none } ∧
      (answer.Calls format statement ↔ plan.handles = []) := by
  obtain ⟨-, rfl⟩ := statement_eq_ok_iff.1 (calls_iff.1 h)
  refine ⟨_, ask_echo plan shelf question cache, calls_iff.2 (statement_ofSql _ _), ?_⟩
  rw [calls_iff, statement_ofSql, Except.ok.injEq, Statement.mk.injEq, ← List.head?_eq_none_iff]
  simp only [true_and, eq_comm]

/-- A plan with a condition and with a reader in a join alone: the answer loses that reader. -/
theorem answer_calls_iff_joined_reader :
    let comments : Handle := ⟨0, "comments"⟩
    let plan : Plan := ⟨.raw "users", "u", ["id"], ["u.age > 18"],
      [⟨.reader (some comments), "comments", ⟨[("id", "user_id")]⟩⟩], none, false, none, none⟩
    let statement : Statement := ⟨plan.sql, .csv, some comments⟩
    plan.Calls .csv statement ∧
      ∃ answer, plan.ask echo .empty "how many?" true = .ok answer ∧
        answer.Calls .csv { statement with reader := none } ∧
        (answer.Calls .csv statement ↔ plan.handles = []) := by
  intro comments plan statement
  have h : plan.Calls .csv statement := calls_iff.2 rfl
  exact ⟨h, answer_calls_iff .empty "how many?" true h⟩

/-- Asking does change the call: a plan over a reader has that reader attached, its answer has the
same text, which names a reader, and none attached. -/
theorem answer_calls_without_reader :
    ∃ (plan answer : Plan) (statement : Statement),
      plan.ask echo .empty "how many?" true = .ok answer ∧ plan.Calls .json statement ∧
        statement = ⟨"SELECT users.* FROM Python(reader) AS users", .json, some ⟨0, "users"⟩⟩ ∧
        ¬ answer.Calls .json statement := by
  let plan : Plan := ⟨.reader (some ⟨0, "users"⟩), "users", [], [], [], none, false, none, none⟩
  refine ⟨plan, _, _, ask_echo plan .empty "how many?" true, calls_iff.2 ?_, rfl, ?_⟩
  · rw [statement_eq_ok_iff]
    decide
  · rw [calls_iff, statement_ofSql]
    simp

end FluentQuery.Plan
