import FluentQuery.Proofs.Redirection

/-!
Replacing in the parts of a text. Main statement: what is replaced in a text is what is replaced in
its parts, if the text is taken apart at a cut; so it is with the clauses of a statement and with
the conditions of a clause.
-/
namespace FluentQuery.Embedded
open Text

/-- The parts of a text at a cut are replaced on their own. -/
theorem redirectedFrom_append {before : Option Char} {a b : List Char} (hb : Cut b) :
    redirectedFrom before (a ++ b) =
      redirectedFrom before a ++ redirectedFrom (a.getLast?.or before) b := by
  have h := redirects before a
  generalize redirectedFrom before a = out at h
  induction h with
  | nil => rfl
  | @copy before c cs out free _ ih =>
    have hz := readerPosition_append_eq_zero hb free
    rw [List.cons_append] at hz ⊢
    rw [redirectedFrom_cons hz, ih]
    simp [List.getLast?_cons]
  | @position before word gap function rest out hp ho _ ih =>
    obtain ⟨ds, hd⟩ := hp.function_eq_append
    rw [List.append_assoc _ rest, redirectedFrom_position hp ho, ih, ← List.append_assoc]
    simp [hd, List.getLast?_append, List.getLast?_cons]

theorem redirectedFrom_eq_redirected {before : Option Char} (h : Outside before)
    (cs : List Char) : redirectedFrom before cs = redirected cs := by
  cases cs with
  | nil => rfl
  | cons c cs =>
    have hf : readerPosition before (c :: cs) = readerPosition none (c :: cs) := by
      unfold Outside at h
      simp only [readerPosition, h, Option.map_none, Option.getD_none]
    rw [redirected_eq, redirectedFrom, redirectedFrom, replaceFrom, replaceFrom, hf]

/-- Text at the front that no position begins in is copied. -/
theorem redirectedFrom_append_of_copied {before : Option Char} {a : List Char}
    (h : ∀ c ∈ a, Copied c) (b : List Char) :
    redirectedFrom before (a ++ b) = a ++ redirectedFrom (a.getLast?.or before) b := by
  induction a generalizing before with
  | nil => rfl
  | cons c a ih =>
    have hz : (readerPosition before (c :: (a ++ b))).1 = 0 :=
      readerPosition_of_copied (h c List.mem_cons_self)
    rw [List.cons_append, redirectedFrom_cons hz,
      ih fun d hd => h d (List.mem_cons_of_mem c hd)]
    simp [List.getLast?_cons]

theorem redirected_append_of_copied {a : List Char} (h : ∀ c ∈ a, Copied c)
    (ho : Outside a.getLast?) (b : List Char) : redirected (a ++ b) = a ++ redirected b := by
  rw [redirected_eq, redirectedFrom_append_of_copied h, Option.or_none,
    redirectedFrom_eq_redirected ho]

/-- What stands before and after a character that is in no position is replaced on its own. -/
theorem redirected_append_foreign {c : Char} (h : Foreign c) (ho : Outside (some c))
    (a b : List Char) : redirected (a ++ c :: b) = redirected a ++ c :: redirected b := by
  have hc : Copied c := by
    have hl := h.2
    constructor <;> rintro he <;> rw [he] at hl <;> revert hl <;> decide
  rw [redirected_eq, redirectedFrom_append (cut_of_foreign h), ← List.singleton_append,
    redirectedFrom_append_of_copied (by simpa using hc)]
  simp [redirectedFrom_eq_redirected ho, redirected_eq]

/-- What stands before and after a blank is replaced on its own, if a text that is apart from
positions follows the blank. -/
theorem redirected_append_blank {b : List Char} (h : Apart b) (a : List Char) :
    redirected (a ++ ' ' :: b) = redirected a ++ ' ' :: redirected b := by
  rw [redirected_eq, redirectedFrom_append (cut_blank h), ← List.singleton_append,
    redirectedFrom_append_of_copied (forall_mem_of_all (by decide))]
  simp [redirectedFrom_eq_redirected (show Outside (some ' ') by decide), redirected_eq]

theorem Apart.append {a : List Char} (h : Apart a) (b : List Char) : Apart (a ++ b) := by
  obtain ⟨c, rest, rfl, hc⟩ := h
  exact ⟨c, rest ++ b, rfl, hc⟩

theorem exists_intercalate_eq {α : Type} {s part : List α} {parts : List (List α)}
    (h : part ∈ parts) :
    ∃ front back, s.intercalate parts = front ++ part ++ back ∧ (front = [] ∨ s <:+ front) := by
  induction parts with
  | nil => cases h
  | cons a parts ih =>
    cases parts with
    | nil =>
      obtain rfl := List.mem_singleton.1 h
      exact ⟨[], [], by simp, .inl rfl⟩
    | cons b parts =>
      rw [List.intercalate_cons_cons]
      rcases List.mem_cons.1 h with rfl | h
      · exact ⟨[], s ++ s.intercalate (b :: parts), by simp, .inl rfl⟩
      · obtain ⟨front, back, he, hfront⟩ := ih h
        refine ⟨a ++ s ++ front, back, by simp [he], .inr ?_⟩
        rcases hfront with rfl | hfront
        · simp
        · exact hfront.trans (List.suffix_append (a ++ s) front)

/-- A position in a clause is a position in the statement. -/
theorem HasPosition.intercalate_blank {clause : List Char} {clauses : List (List Char)}
    (h : HasPosition none clause) (hc : clause ∈ clauses) :
    HasPosition none ([' '].intercalate clauses) := by
  obtain ⟨front, back, he, hfront⟩ := exists_intercalate_eq (s := [' ']) hc
  rw [he]
  refine h.append ?_ back
  rcases hfront with rfl | ⟨lead, rfl⟩
  · rfl
  · rw [List.getLast?_concat]
    exact (by decide : Outside (some ' '))

/-- Parts with a separator between them are replaced one by one, if a part that follows a separator
does not span it. -/
theorem redirected_intercalate {s : List Char} {parts : List (List Char)}
    (h : ∀ b ∈ parts.tail, ∀ a rest,
      redirected (a ++ s ++ (b ++ rest)) = redirected a ++ s ++ redirected (b ++ rest)) :
    redirected (s.intercalate parts) = s.intercalate (parts.map redirected) := by
  induction parts with
  | nil => rfl
  | cons a parts ih =>
    cases parts with
    | nil => simp
    | cons b parts =>
      obtain ⟨rest, hrest⟩ : ∃ rest, s.intercalate (b :: parts) = b ++ rest := by
        cases parts with
        | nil => exact ⟨[], by simp⟩
        | cons c parts =>
          exact ⟨s ++ s.intercalate (c :: parts), by
            rw [List.intercalate_cons_cons, List.append_assoc]⟩
      have htail := ih fun c hc => h c (List.mem_cons_of_mem b hc)
      rw [List.map_cons, List.map_cons, List.intercalate_cons_cons, List.intercalate_cons_cons,
        ← List.map_cons, ← htail, hrest]
      exact h b List.mem_cons_self a rest

theorem redirected_clauses {clauses : List (List Char)}
    (h : ∀ clause ∈ clauses.tail, Apart clause) :
    redirected ([' '].intercalate clauses) = [' '].intercalate (clauses.map redirected) := by
  refine redirected_intercalate fun b hb a rest => ?_
  rw [List.append_assoc, List.singleton_append, redirected_append_blank ((h b hb).append rest)]
  simp

theorem redirected_conditions (conditions : List (List Char)) :
    redirected (" AND ".toList.intercalate conditions) =
      " AND ".toList.intercalate (conditions.map redirected) := by
  refine redirected_intercalate fun b _ a rest => ?_
  have hand : Apart ("AND ".toList ++ (b ++ rest)) := ⟨'A', _, rfl, by decide, by decide⟩
  have hs : a ++ " AND ".toList ++ (b ++ rest) = a ++ ' ' :: ("AND ".toList ++ (b ++ rest)) := by
    simp
  rw [hs, redirected_append_blank hand,
    redirected_append_of_copied (forall_mem_of_all (by decide)) (by decide)]
  simp

end FluentQuery.Embedded
