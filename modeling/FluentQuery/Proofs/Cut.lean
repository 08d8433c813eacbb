import FluentQuery.Proofs.TablePosition

/-!
Places in a text that no table position spans. Main statement: at such a place a text can be cut,
and what stands before the cut decides alone whether a position begins there.
-/
namespace FluentQuery.Embedded
open Text

/-- No position that begins here or before goes on into this text. -/
def Cut (cs : List Char) : Prop :=
  ∀ word gap function : List Char, Position word gap function →
    ∀ front back : List Char, back ≠ [] → word ++ gap ++ function = front ++ back → ¬ back <+: cs

theorem cut_of_foreign {c : Char} {cs : List Char} (h : Foreign c) : Cut (c :: cs) := by
  intro word gap function hp front back hne he hpre
  obtain ⟨b, back, rfl⟩ := List.exists_cons_of_ne_nil hne
  obtain ⟨rfl, -⟩ := List.cons_prefix_cons.1 hpre
  exact hp.not_foreign_of_mem (he ▸ by simp) h

/-- What follows a blank of a position: blanks, and then the function. -/
theorem Position.eq_of_blank {word gap function front back : List Char} {c : Char}
    (h : Position word gap function) (hc : isBlank c = true)
    (he : word ++ gap ++ function = front ++ c :: back) :
    ∃ blanks, (∀ d ∈ blanks, isBlank d = true) ∧ back = blanks ++ function := by
  have hword : c ∉ word := fun hm => by simp [h.not_blank_of_mem_word hm] at hc
  have hfun : c ∉ function := fun hm => by simp [h.not_blank_of_mem_function hm] at hc
  rw [List.append_assoc] at he
  rcases List.append_eq_append_iff.1 he with ⟨lead, -, hg⟩ | ⟨lead, hw, hg⟩
  · rcases List.append_eq_append_iff.1 hg with ⟨_, -, hf⟩ | ⟨blanks, hgap, hf⟩
    · simp [hf] at hfun
    · cases blanks with
      | nil => simp [← (show _ = function from hf)] at hfun
      | cons d blanks =>
        obtain ⟨-, rfl⟩ := List.cons.inj hf
        exact ⟨blanks, fun d hd => h.blank d (by simp [hgap, hd]), rfl⟩
  · cases lead with
    | nil =>
      cases hgap : gap with
      | nil => exact absurd hgap h.gap_ne_nil
      | cons d blanks =>
        rw [hgap] at hg
        obtain ⟨-, rfl⟩ := List.cons.inj hg
        exact ⟨blanks, fun d hd => h.blank d (by simp [hgap, hd]), rfl⟩
    | cons d lead =>
      obtain ⟨rfl, -⟩ := List.cons.inj hg
      simp [hw] at hword

/-- A text that begins neither with a blank nor with the first letter of the function. -/
def Apart (cs : List Char) : Prop :=
  ∃ c rest, cs = c :: rest ∧ isBlank c = false ∧ c.toLower ≠ 'p'

theorem cut_blank {cs : List Char} (h : Apart cs) : Cut (' ' :: cs) := by
  intro word gap function hp front back hne he hpre
  obtain ⟨c, rest, rfl, hblank, hletter⟩ := h
  obtain ⟨b, back, rfl⟩ := List.exists_cons_of_ne_nil hne
  obtain ⟨hb, htail⟩ := List.cons_prefix_cons.1 hpre
  obtain ⟨blanks, hall, rfl⟩ := hp.eq_of_blank (hb ▸ rfl) he
  cases blanks with
  | nil =>
    obtain ⟨d, ds, rfl, hd⟩ := hp.function_eq_cons
    obtain ⟨rfl, -⟩ := List.cons_prefix_cons.1 htail
    exact hletter hd
  | cons d blanks =>
    obtain ⟨rfl, -⟩ := List.cons_prefix_cons.1 htail
    simp [hall] at hblank

/-- What stands in the stead of a position, from its word on. -/
theorem Position.cut_table {word gap function : List Char} (h : Position word gap function)
    (rest : List Char) : Cut (word ++ gap ++ readerTable.toList ++ rest) := by
  intro word' gap' function' hp front back hne hspan hpre
  have hlast : ')' ∈ back := by
    obtain ⟨ds, hd⟩ := hp.function_eq_append
    obtain ⟨bs, b, rfl⟩ := (List.eq_nil_or_concat back).resolve_left hne
    have hl := congrArg List.getLast? hspan
    simp only [hd, List.concat_eq_append, ← List.append_assoc, List.getLast?_concat,
      Option.some.injEq] at hl
    subst hl
    simp
  obtain ⟨more, hback⟩ := hpre
  rw [List.append_assoc (word ++ gap)] at hback
  rcases List.append_eq_append_iff.1 hback with ⟨_, hw, -⟩ | ⟨table, rfl, ht⟩
  · exact h.bracket_not_mem (hw ▸ List.mem_append_left _ hlast)
  · cases table with
    | nil => exact h.bracket_not_mem (by simpa using hlast)
    | cons d table =>
      obtain ⟨rfl, -⟩ := List.cons.inj (show 'c' :: _ = d :: _ from ht)
      have hmem : 'c' ∈ word' ++ gap' ++ function' := by simp [hspan]
      exact hp.not_foreign_of_mem hmem (by decide)

theorem Cut.readerPosition_eq_zero {cs : List Char} (h : Cut cs) (before : Option Char) :
    (readerPosition before cs).1 = 0 := by
  apply Decidable.byContradiction
  intro hne
  obtain ⟨-, word, gap, function, rest, hp, rfl⟩ := readerPosition_ne_zero_iff.1 hne
  exact h _ _ _ hp [] _ (by simp [hp.gap_ne_nil]) rfl ⟨rest, rfl⟩

/-- Whether a position begins before a cut is decided there. -/
theorem readerPosition_append_eq_zero {before : Option Char} {a b : List Char} (hb : Cut b)
    (h : (readerPosition before a).1 = 0) : (readerPosition before (a ++ b)).1 = 0 := by
  apply Decidable.byContradiction
  intro hne
  obtain ⟨ho, word, gap, function, rest, hp, he⟩ := readerPosition_ne_zero_iff.1 hne
  rcases List.append_eq_append_iff.1 he with ⟨back, hspan, hback⟩ | ⟨front, hfront, -⟩
  · by_cases hnil : back = []
    · refine readerPosition_ne_zero_iff.2 ⟨ho, word, gap, function, [], hp, ?_⟩ h
      rw [hspan, hnil, List.append_nil, List.append_nil]
    · exact hb _ _ _ hp a back hnil hspan ⟨rest, hback.symm⟩
  · exact readerPosition_ne_zero_iff.2 ⟨ho, word, gap, function, front, hp, hfront⟩ h

end FluentQuery.Embedded
