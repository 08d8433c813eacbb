import FluentQuery.Proofs.RedirectedPlan

/-!
Text literals in the conditions of a plan over readers. The function is replaced inside of literals
as well. Main statement: a condition keeps its literal if and only if the literal itself has no
table position with the function.
-/
namespace FluentQuery
open Embedded

/-- A condition that compares with a text is replaced on both sides of the opening quote. -/
theorem redirected_condition (subject v : String) :
    redirected (subject ++ " " ++ singleQuoted v).toList =
      redirected subject.toList ++ " '".toList ++ redirected v.toList ++ "'".toList := by
  have hquote : Foreign '\'' := by decide
  have ho : Outside (some '\'') := by decide
  have hv := redirected_append_foreign hquote ho v.toList []
  have hq : redirected ('\'' :: (v.toList ++ ['\''])) = '\'' :: redirected (v.toList ++ ['\'']) :=
    redirected_append_foreign hquote ho [] _
  have hs : (subject ++ " " ++ singleQuoted v).toList =
      subject.toList ++ ' ' :: ('\'' :: (v.toList ++ ['\''])) := by
    simp [singleQuoted]
  rw [hs, redirected_append_blank ⟨_, _, rfl, by decide, by decide⟩, hq, hv]
  simp [redirected_eq, redirectedFrom, Text.replaceFrom]

/-- No text has a condition whose literal has a position with the function, once the function has
been replaced in it. -/
theorem not_infix_redirected {v : String} (hv : HasPosition none v.toList) (subject : String)
    (cs : List Char) : ¬ (subject ++ " " ++ singleQuoted v).toList <:+: redirected cs := by
  rintro ⟨front, back, he⟩
  apply not_hasPosition_redirected cs
  have hs : front ++ (subject ++ " ").toList ++ ['\''] ++ v.toList ++ ('\'' :: back) =
      redirected cs := by
    rw [← he]
    simp [singleQuoted]
  rw [← hs]
  refine hv.append ?_ _
  rw [List.getLast?_concat]
  exact (by decide : Outside (some '\''))

/-- What stands before a literal has no position if neither of its parts names the function. -/
theorem not_hasPosition_subject {field operator : String} (hf : ¬ NamesReader field.toList)
    (ho : ¬ NamesReader operator.toList) :
    ¬ HasPosition none (field ++ " " ++ operator).toList := by
  intro h
  apply separator_blank.not_namesReader hf ho
  simpa using h.namesReader

namespace Plan

variable {plan : Plan}

/-- What becomes of a condition stands in the statement. -/
theorem redirected_predicate_infix (hraw : plan.raw = none) {predicate : String}
    (hp : predicate ∈ plan.predicates) :
    Embedded.redirected predicate.toList <:+: Embedded.redirected plan.sql.toList := by
  have hclause : "WHERE " ++ " AND ".intercalate plan.predicates ∈ plan.clauses := by
    have hne : plan.predicates.isEmpty = false := by
      rw [List.isEmpty_eq_false_iff]
      exact List.ne_nil_of_mem hp
    simp [clauses_eq, closingClauses, hne]
  have hwhere : Embedded.redirected ("WHERE " ++ " AND ".intercalate plan.predicates).toList =
      "WHERE ".toList ++ " AND ".toList.intercalate
        ((plan.predicates.map String.toList).map Embedded.redirected) := by
    rw [String.toList_append,
      redirected_append_of_copied (forall_mem_of_all (by decide)) (by decide),
      String.toList_intercalate, redirected_conditions]
  obtain ⟨front, back, hin, -⟩ := exists_intercalate_eq (s := " AND ".toList)
    (List.mem_map_of_mem (f := Embedded.redirected) (List.mem_map_of_mem (f := String.toList) hp))
  obtain ⟨front', back', hin', -⟩ := exists_intercalate_eq (s := [' '])
    (List.mem_map_of_mem (f := fun clause => Embedded.redirected clause.toList) hclause)
  rw [redirected_sql hraw, hin', hwhere, hin]
  exact ⟨front' ++ "WHERE ".toList ++ front, back ++ back', by simp⟩

/-- A condition that compares with a text in the statement of a plan over readers: its two sides
stand there with the function replaced. So the condition is not kept if the text has a position with
the function, and it is kept if neither the text nor what stands before it has one. -/
theorem redirect?_literal (hraw : plan.raw = none)
    (hreader : plan.tables.any Table.isReader = true) {field operator v : String}
    (hp : field ++ " " ++ operator ++ " " ++ singleQuoted v ∈ plan.predicates) :
    ∃ sql, redirect? plan.sql = some sql ∧
      Embedded.redirected (field ++ " " ++ operator).toList ++ " '".toList ++
        Embedded.redirected v.toList ++ "'".toList <:+: sql.toList ∧
      (HasPosition none v.toList →
        ¬ (field ++ " " ++ operator ++ " " ++ singleQuoted v).toList <:+: sql.toList) ∧
      (¬ HasPosition none (field ++ " " ++ operator).toList → ¬ HasPosition none v.toList →
        (field ++ " " ++ operator ++ " " ++ singleQuoted v).toList <:+: sql.toList) := by
  have hin := redirected_predicate_infix hraw hp
  have hcondition := redirected_condition (field ++ " " ++ operator) v
  have hl : (String.ofList (Embedded.redirected plan.sql.toList)).toList =
      Embedded.redirected plan.sql.toList := String.toList_ofList
  refine ⟨_, redirect?_eq_some (hasPosition_sql hraw (List.any_eq_true.1 hreader)), ?_, ?_, ?_⟩
  · rw [hl, ← hcondition]
    exact hin
  · rw [hl]
    exact fun hv => not_infix_redirected hv _ _
  · intro hs hv
    rw [← redirectedFrom_eq_self_iff, ← redirected_eq] at hs hv
    rw [hl]
    rw [hcondition, hs, hv] at hin
    simpa [singleQuoted] using hin

/-- A plan over two readers with a word of table positions in its literal. -/
theorem redirect?_literal_kept :
    let plan : Plan := ⟨.reader (some ⟨0, "notes"⟩), "n", ["id"], ["n.note = 'FROM Python'"],
      [⟨.reader none, "r", ⟨[("id", "note_id")]⟩⟩], some 5, false, none, none⟩
    plan.raw = none ∧ plan.tables.any Table.isReader = true ∧
      "n.note" ++ " " ++ "=" ++ " " ++ singleQuoted "FROM Python" ∈ plan.predicates ∧
      ∃ sql, redirect? plan.sql = some sql ∧ "n.note = 'FROM Python'".toList <:+: sql.toList := by
  intro plan
  have hp : "n.note" ++ " " ++ "=" ++ " " ++ singleQuoted "FROM Python" ∈ plan.predicates := by
    simp [plan, singleQuoted]
  have hsubject : ¬ HasPosition none ("n.note" ++ " " ++ "=").toList :=
    not_hasPosition_subject (not_namesReader_of_length_lt (by decide))
      (not_namesReader_of_length_lt (by decide))
  have hv : ¬ HasPosition none "FROM Python".toList := fun h =>
    not_namesReader_of_length_lt (by decide) h.namesReader
  obtain ⟨sql, hsql, -, -, hkept⟩ := @redirect?_literal plan rfl rfl _ _ _ hp
  exact ⟨rfl, rfl, hp, sql, hsql, hkept hsubject hv⟩

/-- A literal is changed: a plan over a reader that compares with a text that holds a position. -/
theorem redirect?_literal_changed :
    ∃ (plan : Plan) (field operator v : String), plan.raw = none ∧
      plan.tables.any Table.isReader = true ∧ ¬ NamesReader field.toList ∧
      ¬ NamesReader operator.toList ∧ '\'' ∉ v.toList ∧
      field ++ " " ++ operator ++ " " ++ singleQuoted v ∈ plan.predicates ∧
      ∃ sql, redirect? plan.sql = some sql ∧
        ¬ (field ++ " " ++ operator ++ " " ++ singleQuoted v).toList <:+: sql.toList := by
  let plan : Plan := ⟨.reader (some ⟨0, "notes"⟩), "notes", ["id"],
    ["notes.note = 'copied from Python(reader)'"], [], none, false, none, none⟩
  have hv : HasPosition none "copied from Python(reader)".toList :=
    ⟨"copied ".toList, "from".toList, [' '], Table.readerFunction.toList, [], by
      simp [Table.readerFunction], position_of_word (.inl rfl), by decide⟩
  refine ⟨plan, "notes.note", "=", "copied from Python(reader)", rfl, rfl,
    not_namesReader_of_length_lt (by decide), not_namesReader_of_length_lt (by decide), by simp,
    by simp [plan, singleQuoted], _,
    redirect?_eq_some (hasPosition_sql rfl ⟨_, List.mem_cons_self, rfl⟩), ?_⟩
  rw [String.toList_ofList]
  exact not_infix_redirected hv _ _

end Plan

end FluentQuery
