import FluentQuery.Plan.Sql

/-!
Identifiers and the columns that they name. Main statement: qualification puts none of the marks
into them that stand between the names of a statement.
-/
namespace FluentQuery

def isBareName (s : String) : Bool := !s.isEmpty && s.toList.all fun c => c.isAlphanum || c == '_'

/-- A column under its own name, or under that of its table too. -/
def IsBareField (s : String) : Prop :=
  isBareName s = true ∨ ∃ table column, isBareName table = true ∧ isBareName column = true ∧
    s = table ++ "." ++ column

/-- None of the characters with which names are put together into clauses. -/
def Unmarked (s : String) : Prop := ∀ c ∈ s.toList, c ∉ [' ', ',', '*', '=']

theorem unmarked_append {first second : String} :
    Unmarked (first ++ second) ↔ Unmarked first ∧ Unmarked second := by
  simp only [Unmarked, String.toList_append, List.mem_append, or_imp, forall_and]

namespace Unmarked

variable {s : String} (h : Unmarked s)
include h

theorem not_mem_blank : ' ' ∉ s.toList := fun hc => h _ hc (by decide)

theorem not_mem_comma : ',' ∉ s.toList := fun hc => h _ hc (by decide)

theorem not_mem_star : '*' ∉ s.toList := fun hc => h _ hc (by decide)

theorem not_mem_equals : '=' ∉ s.toList := fun hc => h _ hc (by decide)

end Unmarked

theorem unmarked_dot : Unmarked "." := by
  simp [Unmarked]

theorem unmarked_of_isBareName {s : String} (h : isBareName s = true) : Unmarked s := by
  intro c hc hmark
  have hname := List.all_eq_true.1 (Bool.and_eq_true_iff.1 h).2 c hc
  simp only [List.mem_cons, List.not_mem_nil, or_false] at hmark
  rcases hmark with rfl | rfl | rfl | rfl <;> exact absurd hname (by decide)

theorem isEmpty_of_isBareName {s : String} (h : isBareName s = true) : s.isEmpty = false :=
  (Bool.not_eq_true' _).mp (Bool.and_eq_true_iff.1 h).1

theorem IsBareField.unmarked {s : String} (h : IsBareField s) : Unmarked s := by
  rcases h with h | ⟨table, column, htable, hcolumn, rfl⟩
  · exact unmarked_of_isBareName h
  · exact unmarked_append.2 ⟨unmarked_append.2 ⟨unmarked_of_isBareName htable, unmarked_dot⟩,
      unmarked_of_isBareName hcolumn⟩

theorem unmarked_qualified {field aliasName : String} (hfield : Unmarked field)
    (halias : Unmarked aliasName) : Unmarked (qualified field aliasName) := by
  unfold qualified
  split
  · exact hfield
  · exact unmarked_append.2 ⟨unmarked_append.2 ⟨halias, unmarked_dot⟩, hfield⟩

theorem unmarked_qualifiedKey {key aliasName : String} (hkey : Unmarked key)
    (halias : Unmarked aliasName) : Unmarked (qualifiedKey key aliasName) := by
  rcases qualifiedKey_cases key aliasName with heq | ⟨table, field, rfl, heq⟩
  · rw [heq]
    exact unmarked_qualified hkey halias
  · obtain ⟨htable, hfield⟩ := unmarked_append.1 hkey
    rw [heq]
    exact unmarked_qualified hfield (unmarked_append.1 htable).1

theorem not_mem_blank_naturalText (n : Nat) : ' ' ∉ (naturalText n).toList := by
  rw [naturalText, String.toList_ofList]
  exact not_mem_toDigits rfl n

theorem naturalText_injective {n m : Nat} (h : naturalText n = naturalText m) : n = m := by
  have hdigits : Nat.toDigits 10 n = Nat.toDigits 10 m := String.ofList_inj.1 h
  calc n = Nat.ofDigitChars 10 (Nat.toDigits 10 n) 0 := Nat.ofDigitChars_ten_toDigits.symm
    _ = Nat.ofDigitChars 10 (Nat.toDigits 10 m) 0 := by rw [hdigits]
    _ = m := Nat.ofDigitChars_ten_toDigits

theorem not_mem_blank_integerText (n : Int) : ' ' ∉ (integerText n).toList := by
  rw [integerText, String.toList_ofList, integerChars]
  have hdigits : ' ' ∉ Nat.toDigits 10 n.natAbs := not_mem_toDigits rfl _
  split
  · simp [hdigits]
  · exact hdigits

end FluentQuery
