import FluentQuery.Text.Scan

/-!
The words of a text: the pieces between its blanks. Main statements: the words of a text that is
put together from parts, that a text is known by its words, and that lists of words with a mark
between their items can be read in one way only.
-/
namespace FluentQuery.Text

def words (s : String) : List String := (splitAll ' ' s.toList).map String.ofList

theorem words_append (first second : String) :
    words (first ++ " " ++ second) = words first ++ words second := by
  have hchars : (first ++ " " ++ second).toList = first.toList ++ ' ' :: second.toList := by simp
  rw [words, hchars, splitAll_append_cons, List.map_append, words, words]

theorem words_of_not_mem {s : String} (h : ' ' ∉ s.toList) : words s = [s] := by
  rw [words, splitAll_of_not_mem h, List.map_singleton, String.ofList_toList]

theorem words_cons {word : String} (h : ' ' ∉ word.toList) (s : String) :
    words (word ++ " " ++ s) = word :: words s := by
  rw [words_append, words_of_not_mem h, List.singleton_append]

theorem words_lead (lead word : String) (hlead : lead = word ++ " ") (h : ' ' ∉ word.toList)
    (s : String) : words (lead ++ s) = word :: words s := by
  rw [hlead, words_cons h]

theorem words_injective {first second : String} (h : words first = words second) :
    first = second := by
  have hpieces : splitAll ' ' first.toList = splitAll ' ' second.toList :=
    (List.map_inj_right fun _ _ => String.ofList_inj.1).1 h
  rw [← String.toList_inj, ← intercalate_splitAll ' ' first.toList, hpieces, intercalate_splitAll]

theorem words_intercalate {parts : List String} (hne : parts ≠ []) :
    words (" ".intercalate parts) = parts.flatMap words := by
  induction parts with
  | nil => exact absurd rfl hne
  | cons part parts ih =>
    cases parts with
    | nil => simp
    | cons next parts =>
      rw [String.intercalate_cons_cons, words_append, ih (List.cons_ne_nil _ _)]
      simp

theorem words_intercalate_and {parts : List String} (hne : parts ≠ []) :
    words (" AND ".intercalate parts) = ["AND"].intercalate (parts.map words) := by
  induction parts with
  | nil => exact absurd rfl hne
  | cons part parts ih =>
    cases parts with
    | nil => simp
    | cons next parts =>
      have hand : part ++ " AND " ++ " AND ".intercalate (next :: parts) =
          part ++ " " ++ ("AND" ++ " " ++ " AND ".intercalate (next :: parts)) := by
        rw [← String.toList_inj]
        simp
      rw [String.intercalate_cons_cons, hand, words_append, words_cons (by decide),
        ih (List.cons_ne_nil _ _)]
      simp

/-- Items as words, with a comma after each but the last. -/
def listed : List String → List String
  | [] => []
  | [item] => [item]
  | item :: next :: items => (item ++ ",") :: listed (next :: items)

theorem words_intercalate_comma {items : List String} (hne : items ≠ [])
    (h : ∀ item ∈ items, ' ' ∉ item.toList) : words (", ".intercalate items) = listed items := by
  induction items with
  | nil => exact absurd rfl hne
  | cons item items ih =>
    obtain ⟨hitem, hitems⟩ := List.forall_mem_cons.1 h
    cases items with
    | nil => simp [listed, words_of_not_mem hitem]
    | cons next items =>
      have hcomma : item ++ ", " ++ ", ".intercalate (next :: items) =
          item ++ "," ++ " " ++ ", ".intercalate (next :: items) := by
        rw [← String.toList_inj]
        simp
      rw [String.intercalate_cons_cons, hcomma, words_cons (by simp [hitem]),
        ih (List.cons_ne_nil _ _) hitems, listed]

/-! Where a list of words ends. -/

/-- The item without a comma is the last. -/
theorem listed_append_inj {items others rest more : List String} (hne : items ≠ [])
    (hone : others ≠ []) (hitems : ∀ item ∈ items, ',' ∉ item.toList)
    (hothers : ∀ item ∈ others, ',' ∉ item.toList)
    (h : listed items ++ rest = listed others ++ more) : items = others ∧ rest = more := by
  have hcomma : ∀ {item other : String}, ',' ∉ item.toList → item ≠ other ++ "," := by
    rintro item other hitem rfl
    exact hitem (by simp)
  induction items generalizing others with
  | nil => exact absurd rfl hne
  | cons item items ih =>
    obtain ⟨hitem, hitems⟩ := List.forall_mem_cons.1 hitems
    cases others with
    | nil => exact absurd rfl hone
    | cons other others =>
      obtain ⟨hother, hothers⟩ := List.forall_mem_cons.1 hothers
      cases items with
      | nil =>
        cases others with
        | nil =>
          obtain ⟨rfl, hrest⟩ := List.cons.inj h
          exact ⟨rfl, hrest⟩
        | cons next others => exact absurd (List.cons.inj h).1 (hcomma hitem)
      | cons next items =>
        cases others with
        | nil => exact absurd (List.cons.inj h).1.symm (hcomma hother)
        | cons next' others =>
          obtain ⟨hfirst, htail⟩ := List.cons.inj h
          obtain ⟨hlist, hrest⟩ :=
            ih (List.cons_ne_nil _ _) (List.cons_ne_nil _ _) hitems hothers htail
          exact ⟨by rw [hlist, (String.append_left_inj ",").1 hfirst], hrest⟩

section Marked

variable {mark : String} {n : Nat} {parts others : List (List String)} {rest more : List String}

/-- Parts of one length with a mark in front of each end where the mark is missing. -/
theorem flatMap_append_inj (hp : ∀ part ∈ parts, part.length = n)
    (ho : ∀ part ∈ others, part.length = n) (hrest : rest.head? ≠ some mark)
    (hmore : more.head? ≠ some mark)
    (h : parts.flatMap ([mark] ++ ·) ++ rest = others.flatMap ([mark] ++ ·) ++ more) :
    parts = others ∧ rest = more := by
  induction parts generalizing others with
  | nil =>
    cases others with
    | nil => exact ⟨rfl, h⟩
    | cons other others => exact absurd (congrArg List.head? h) hrest
  | cons part parts ih =>
    cases others with
    | nil => exact absurd (congrArg List.head? h.symm) hmore
    | cons other others =>
      obtain ⟨hpart, hparts⟩ := List.forall_mem_cons.1 hp
      obtain ⟨hother, hothers⟩ := List.forall_mem_cons.1 ho
      simp only [List.flatMap_cons, List.append_assoc] at h
      obtain ⟨rfl, htail⟩ :=
        List.append_inj (List.append_cancel_left h) (hpart.trans hother.symm)
      obtain ⟨rfl, hend⟩ := ih hparts hothers htail
      exact ⟨rfl, hend⟩

/-- Parts of one length with a mark between them end where the mark is missing. -/
theorem intercalate_append_inj (hne : parts ≠ []) (hone : others ≠ [])
    (hp : ∀ part ∈ parts, part.length = n) (ho : ∀ part ∈ others, part.length = n)
    (hrest : rest.head? ≠ some mark) (hmore : more.head? ≠ some mark)
    (h : [mark].intercalate parts ++ rest = [mark].intercalate others ++ more) :
    parts = others ∧ rest = more := by
  obtain ⟨part, parts, rfl⟩ := List.exists_cons_of_ne_nil hne
  obtain ⟨other, others, rfl⟩ := List.exists_cons_of_ne_nil hone
  obtain ⟨hpart, hparts⟩ := List.forall_mem_cons.1 hp
  obtain ⟨hother, hothers⟩ := List.forall_mem_cons.1 ho
  rw [intercalate_cons, intercalate_cons, List.append_assoc, List.append_assoc] at h
  obtain ⟨rfl, htail⟩ := List.append_inj h (hpart.trans hother.symm)
  obtain ⟨rfl, hend⟩ := flatMap_append_inj hparts hothers hrest hmore htail
  exact ⟨rfl, hend⟩

end Marked

end FluentQuery.Text
