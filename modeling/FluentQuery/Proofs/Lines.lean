import FluentQuery.Text.Scan

/-!
Texts that are written line by line. Main statement: lines without a line feed of their own are
known from the text, and there are as many of them as line feeds.
-/
namespace FluentQuery.Text

/-- Texts that end with line feeds are the pieces between these. -/
theorem splitAll_join_lines {lines : List String} (h : ∀ line ∈ lines, '\n' ∉ line.toList) :
    splitAll '\n' (String.join (lines.map (· ++ "\n"))).toList =
      lines.map String.toList ++ [[]] := by
  induction lines with
  | nil => rfl
  | cons line lines ih =>
    obtain ⟨hline, hlines⟩ := List.forall_mem_cons.1 h
    have hchars : (String.join ((line :: lines).map (· ++ "\n"))).toList =
        line.toList ++ '\n' :: (String.join (lines.map (· ++ "\n"))).toList := by
      simp [String.join_cons]
    rw [hchars, splitAll_append_cons, splitAll_of_not_mem hline, ih hlines]
    rfl

end FluentQuery.Text
