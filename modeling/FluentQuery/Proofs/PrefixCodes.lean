import FluentQuery.Text.Scan

/-!
Codes that are read from the front: whatever follows a code word, it is known where the word ends.
Main statement: a text that is written item by item in such a code is read in one way only, up to
where no code word stands.
-/
namespace FluentQuery

variable {α β : Type}

/-- A code whose words are told apart in front of whatever follows them. -/
structure PrefixCode (code : α → List β) : Prop where
  append_inj : ∀ {a b : α} {rest more : List β}, code a ++ rest = code b ++ more →
    a = b ∧ rest = more

/-- Two fronts without marks end where the first mark stands. -/
theorem append_marks_inj {isMark : α → Prop} {mark mark' : α} {front front' rest more : List α}
    (h : ∀ a ∈ front, ¬ isMark a) (h' : ∀ a ∈ front', ¬ isMark a) (hmark : isMark mark)
    (hmark' : isMark mark') (he : front ++ mark :: rest = front' ++ mark' :: more) :
    front = front' ∧ mark :: rest = mark' :: more := by
  induction front generalizing front' with
  | nil =>
    cases front' with
    | nil => exact ⟨rfl, he⟩
    | cons a front' =>
      obtain ⟨rfl, -⟩ := List.cons.inj he
      exact absurd hmark (h' _ List.mem_cons_self)
  | cons a front ih =>
    cases front' with
    | nil =>
      obtain ⟨rfl, -⟩ := List.cons.inj he
      exact absurd hmark' (h _ List.mem_cons_self)
    | cons b front' =>
      obtain ⟨rfl, htail⟩ := List.cons.inj he
      obtain ⟨rfl, hrest⟩ :=
        ih (List.forall_mem_cons.1 h).2 (List.forall_mem_cons.1 h').2 htail
      exact ⟨rfl, hrest⟩

/-- A mark that stands in neither front ends both. -/
theorem append_mark_inj {mark : α} {front front' rest more : List α} (h : mark ∉ front)
    (h' : mark ∉ front') (he : front ++ mark :: rest = front' ++ mark :: more) :
    front = front' ∧ rest = more := by
  have hplain : ∀ {front : List α}, mark ∉ front → ∀ a ∈ front, ¬ a = mark :=
    fun hfront a ha hm => hfront (hm ▸ ha)
  obtain ⟨hfront, htail⟩ :=
    @append_marks_inj α (· = mark) mark mark _ _ _ _ (hplain h) (hplain h') rfl rfl he
  exact ⟨hfront, (List.cons.inj htail).2⟩

namespace PrefixCode

variable {code : α → List β}

theorem flatMap_append_inj (hcode : PrefixCode code) {items others : List α} {rest more : List β}
    (hrest : ∀ a tail, rest ≠ code a ++ tail) (hmore : ∀ a tail, more ≠ code a ++ tail)
    (h : items.flatMap code ++ rest = others.flatMap code ++ more) :
    items = others ∧ rest = more := by
  induction items generalizing others with
  | nil =>
    cases others with
    | nil => exact ⟨rfl, h⟩
    | cons other others =>
      exact absurd (by simpa using h) (hrest other (others.flatMap code ++ more))
  | cons item items ih =>
    cases others with
    | nil => exact absurd (by simpa using h.symm) (hmore item (items.flatMap code ++ rest))
    | cons other others =>
      simp only [List.flatMap_cons, List.append_assoc] at h
      obtain ⟨rfl, htail⟩ := hcode.append_inj h
      obtain ⟨rfl, hend⟩ := ih htail
      exact ⟨rfl, hend⟩

/-- Without empty code words the end of the text ends its reading. -/
theorem flatMap_injective (hcode : PrefixCode code) (hne : ∀ a, code a ≠ [])
    {items others : List α} (h : items.flatMap code = others.flatMap code) : items = others := by
  have hend : ∀ a tail, [] ≠ code a ++ tail := fun a tail he =>
    hne a (List.append_eq_nil_iff.1 he.symm).1
  exact (hcode.flatMap_append_inj hend hend (congrArg (· ++ []) h)).1

theorem append_left (hcode : PrefixCode code) (lead : List β) :
    PrefixCode fun a => lead ++ code a where
  append_inj := by
    intro a b rest more h
    rw [List.append_assoc, List.append_assoc] at h
    exact hcode.append_inj (List.append_cancel_left h)

/-- Items with separators between them, in front of a mark with which neither a separator nor a code
word begins. -/
theorem intercalate_append_inj (hcode : PrefixCode code) {separator : List β} {close : β}
    (hclose : ∀ a tail tail', close :: tail ≠ code a ++ tail')
    (hseparator : ∀ tail tail', close :: tail ≠ separator ++ tail')
    {items others : List α} {rest more : List β}
    (h : separator.intercalate (items.map code) ++ close :: rest =
      separator.intercalate (others.map code) ++ close :: more) :
    items = others ∧ rest = more := by
  have hcons : ∀ (item : α) (items : List α), separator.intercalate ((item :: items).map code) =
      code item ++ items.flatMap fun a => separator ++ code a := by
    intro item items
    rw [List.map_cons, Text.intercalate_cons, List.flatMap_map]
  have hend : ∀ (tail : List β) (a : α) (tail' : List β),
      close :: tail ≠ (separator ++ code a) ++ tail' := by
    intro tail a tail' he
    exact hseparator tail (code a ++ tail') (by rw [he, List.append_assoc])
  cases items with
  | nil =>
    cases others with
    | nil => simpa using h
    | cons other others =>
      rw [hcons, List.append_assoc] at h
      exact absurd h (hclose other rest _)
  | cons item items =>
    cases others with
    | nil =>
      rw [hcons, List.append_assoc] at h
      exact absurd h.symm (hclose item more _)
    | cons other others =>
      rw [hcons, hcons, List.append_assoc, List.append_assoc] at h
      obtain ⟨rfl, htail⟩ := hcode.append_inj h
      obtain ⟨rfl, hrest⟩ :=
        (hcode.append_left separator).flatMap_append_inj (hend rest) (hend more) htail
      exact ⟨rfl, (List.cons.inj hrest).2⟩

/-- A character is written as itself, or as a mark and a word after it. -/
theorem of_escapes (mark : Char) {code : Char → List Char}
    (hcases : ∀ c, (∃ word, code c = mark :: word) ∨ (code c = [c] ∧ c ≠ mark))
    (hmarked : ∀ {c d : Char} {word other rest more : List Char}, code c = mark :: word →
      code d = mark :: other → word ++ rest = other ++ more → c = d ∧ rest = more) :
    PrefixCode code where
  append_inj := by
    intro c d rest more h
    rcases hcases c with ⟨word, hc⟩ | ⟨hc, hplain⟩ <;>
      rcases hcases d with ⟨other, hd⟩ | ⟨hd, hplain'⟩
    all_goals
      rw [hc, hd, List.cons_append, List.cons_append] at h
      obtain ⟨hhead, htail⟩ := List.cons.inj h
    · exact hmarked hc hd htail
    · exact absurd hhead.symm hplain'
    · exact absurd hhead hplain
    · exact ⟨hhead, htail⟩

end PrefixCode

end FluentQuery
