import FluentQuery.Embedded.Redirect

/-!
Table positions with the table function of readers. Main statement: what the search finds at a
place in a statement is a position outside of words, and every such position is found, whatever
follows it.
-/
namespace FluentQuery.Embedded
open Text

/-- A table position with the table function of readers: `FROM` or `JOIN`, blanks, the function. -/
structure Position (word gap function : List Char) : Prop where
  word : lowerAll word = "from".toList ∨ lowerAll word = "join".toList
  gap_ne_nil : gap ≠ []
  blank : ∀ c ∈ gap, isBlank c = true
  function : lowerAll function = lowerAll Table.readerFunction.toList

def Outside (before : Option Char) : Prop := (before.map isWord).getD false = false

/-- A character that is in no table position. -/
def Foreign (c : Char) : Prop :=
  isBlank c = false ∧
    c.toLower ∉ "from".toList ++ "join".toList ++ lowerAll Table.readerFunction.toList

def Copied (c : Char) : Prop := c.toLower ≠ 'f' ∧ c.toLower ≠ 'j'

instance (before : Option Char) : Decidable (Outside before) :=
  inferInstanceAs (Decidable ((before.map isWord).getD false = false))

instance (c : Char) : Decidable (Foreign c) :=
  inferInstanceAs (Decidable (isBlank c = false ∧
    c.toLower ∉ "from".toList ++ "join".toList ++ lowerAll Table.readerFunction.toList))

instance (c : Char) : Decidable (Copied c) :=
  inferInstanceAs (Decidable (c.toLower ≠ 'f' ∧ c.toLower ≠ 'j'))

theorem forall_mem_of_all {p : Char → Prop} [DecidablePred p] {cs : List Char}
    (h : cs.all (fun c => decide (p c)) = true) : ∀ c ∈ cs, p c :=
  fun c hc => of_decide_eq_true (List.all_eq_true.1 h c hc)

theorem toLower_eq_or (c : Char) :
    c.toLower = c ∨ 65 ≤ c.toNat ∧ c.toNat ≤ 90 ∧ c.toLower.toNat = c.toNat + 32 := by
  unfold Char.toLower
  split
  · next h =>
    have h1 : 65 ≤ c.val.toNat := h.1
    have h2 : c.val.toNat ≤ 90 := h.2
    have hadd : (c.val + ('a'.val - 'A'.val)).toNat = c.val.toNat + 32 := by
      rw [UInt32.toNat_add]
      have h32 : ('a'.val - 'A'.val).toNat = 32 := rfl
      omega
    exact .inr ⟨h1, h2, hadd⟩
  · exact .inl rfl

theorem isBlank_eq_false_of_lower {c : Char} (h : isBlank c.toLower = false) :
    isBlank c = false := by
  rcases toLower_eq_or c with hc | ⟨h1, h2, -⟩
  · rwa [hc] at h
  · simp [isBlank]
    omega

theorem copied_of_isBlank {c : Char} (h : isBlank c = true) : Copied c := by
  have hl : ∀ {d : Char}, isBlank d = false → c.toLower ≠ d := by
    rintro d hd rfl
    rw [isBlank_eq_false_of_lower hd] at h
    cases h
  exact ⟨hl rfl, hl rfl⟩

theorem eq_of_lower {c d : Char} (h : c.toLower = d) (hd : d.toNat < 97) : c = d := by
  rcases toLower_eq_or c with hc | ⟨h1, -, hc⟩
  · rwa [hc] at h
  · rw [h] at hc
    omega

theorem length_eq_of_lowerAll {cs ds : List Char} (h : lowerAll cs = ds) :
    cs.length = ds.length := by
  rw [← h, lowerAll, List.length_map]

theorem mem_lowerAll {c : Char} {cs ds : List Char} (h : lowerAll cs = ds) (hc : c ∈ cs) :
    c.toLower ∈ ds := h ▸ List.mem_map_of_mem hc

theorem position_of_word {word : List Char}
    (h : lowerAll word = "from".toList ∨ lowerAll word = "join".toList) :
    Position word [' '] Table.readerFunction.toList :=
  ⟨h, List.cons_ne_nil _ _, List.forall_mem_singleton.2 rfl, rfl⟩

theorem position_from : Position "FROM".toList [' '] Table.readerFunction.toList :=
  position_of_word (.inl (by decide))

theorem position_join : Position "JOIN".toList [' '] Table.readerFunction.toList :=
  position_of_word (.inr (by decide))

namespace Position

variable {word gap function : List Char}

theorem word_length (h : Position word gap function) : word.length = 4 := by
  rcases h.word with hw | hw <;> exact length_eq_of_lowerAll hw

theorem function_length (h : Position word gap function) :
    function.length = Table.readerFunction.toList.length := by
  simpa [lowerAll] using length_eq_of_lowerAll h.function

theorem lower_mem_of_mem_word (h : Position word gap function) {c : Char} (hc : c ∈ word) :
    c.toLower ∈ "from".toList ++ "join".toList := by
  rcases h.word with hw | hw
  · exact List.mem_append_left _ (mem_lowerAll hw hc)
  · exact List.mem_append_right _ (mem_lowerAll hw hc)

theorem lower_mem_of_mem_function (h : Position word gap function) {c : Char}
    (hc : c ∈ function) : c.toLower ∈ lowerAll Table.readerFunction.toList :=
  mem_lowerAll h.function hc

theorem not_blank_of_mem_word (h : Position word gap function) {c : Char} (hc : c ∈ word) :
    isBlank c = false := by
  have hall : ∀ d ∈ "from".toList ++ "join".toList, isBlank d = false :=
    forall_mem_of_all (by decide)
  exact isBlank_eq_false_of_lower (hall _ (h.lower_mem_of_mem_word hc))

theorem not_blank_of_mem_function (h : Position word gap function) {c : Char}
    (hc : c ∈ function) : isBlank c = false := by
  have hall : ∀ d ∈ lowerAll Table.readerFunction.toList, isBlank d = false :=
    forall_mem_of_all (by decide)
  exact isBlank_eq_false_of_lower (hall _ (h.lower_mem_of_mem_function hc))

theorem function_eq_cons (h : Position word gap function) :
    ∃ c cs, function = c :: cs ∧ c.toLower = 'p' := by
  obtain ⟨c, cs, hc, hl, -⟩ := List.map_eq_cons_iff.1 h.function
  exact ⟨c, cs, hc, hl⟩

theorem function_eq_append (h : Position word gap function) : ∃ cs, function = cs ++ [')'] := by
  have hs : lowerAll Table.readerFunction.toList = lowerAll "Python(reader".toList ++ [')'] := by
    decide
  obtain ⟨cs, ds, rfl, -, hd⟩ := List.map_eq_append_iff.1 (h.function.trans hs)
  obtain ⟨d, rfl, hl⟩ := List.map_eq_singleton_iff.1 hd
  exact ⟨cs, by rw [eq_of_lower hl (by decide)]⟩

theorem not_foreign_of_mem (h : Position word gap function) {c : Char}
    (hc : c ∈ word ++ gap ++ function) : ¬ Foreign c := by
  rintro ⟨hb, hl⟩
  simp only [List.mem_append, not_or] at hc hl
  rcases hc with (hc | hc) | hc
  · have hw := h.lower_mem_of_mem_word hc
    rw [List.mem_append] at hw
    exact hw.elim hl.1.1 hl.1.2
  · rw [h.blank c hc] at hb
    cases hb
  · exact hl.2 (h.lower_mem_of_mem_function hc)

theorem word_eq_cons (h : Position word gap function) :
    ∃ c cs, word = c :: cs ∧ ¬ Copied c ∧ ∀ d ∈ cs, Copied d := by
  have hfrom : ∀ d ∈ "rom".toList, d ≠ 'f' ∧ d ≠ 'j' := forall_mem_of_all (by decide)
  have hjoin : ∀ d ∈ "oin".toList, d ≠ 'f' ∧ d ≠ 'j' := forall_mem_of_all (by decide)
  rcases h.word with hw | hw
  · obtain ⟨c, cs, rfl, hc, hcs⟩ := List.map_eq_cons_iff.1 hw
    exact ⟨c, cs, rfl, fun hn => hn.1 hc, fun d hd => hfrom _ (mem_lowerAll hcs hd)⟩
  · obtain ⟨c, cs, rfl, hc, hcs⟩ := List.map_eq_cons_iff.1 hw
    exact ⟨c, cs, rfl, fun hn => hn.2 hc, fun d hd => hjoin _ (mem_lowerAll hcs hd)⟩

theorem bracket_not_mem (h : Position word gap function) : ')' ∉ word ++ gap := by
  rw [List.mem_append, not_or]
  constructor
  · intro hm
    have hw := h.lower_mem_of_mem_word hm
    revert hw
    decide
  · intro hm
    have hb := h.blank _ hm
    revert hb
    decide

end Position

theorem drop_length_takeWhile {α : Type} (p : α → Bool) (xs : List α) :
    xs.drop (xs.takeWhile p).length = xs.dropWhile p := by
  have h := @List.drop_left _ (xs.takeWhile p) (xs.dropWhile p)
  rwa [List.takeWhile_append_dropWhile] at h

theorem takeWhile_blanks {gap rest : List Char} {c : Char} (h : ∀ d ∈ gap, isBlank d = true)
    (hc : isBlank c = false) : (gap ++ c :: rest).takeWhile isBlank = gap := by
  rw [List.takeWhile_append_of_pos h, List.takeWhile_cons_of_neg (by simp [hc]), List.append_nil]

/-- What is found is a table position that stands outside of words. -/
theorem position_of_readerPosition {before : Option Char} {cs : List Char}
    (h : (readerPosition before cs).1 ≠ 0) :
    Outside before ∧ ∃ word gap function rest,
      Position word gap function ∧ cs = word ++ gap ++ function ++ rest := by
  unfold readerPosition at h
  dsimp only at h
  split at h
  · next hc =>
    simp only [Bool.and_eq_true, Bool.or_eq_true, Bool.not_eq_true', decide_eq_true_eq,
      List.isEmpty_eq_false_iff] at hc
    obtain ⟨⟨⟨hout, hword⟩, hgap⟩, hfunction⟩ := hc
    let rest := (cs.drop (4 + ((cs.drop 4).takeWhile isBlank).length)).drop
      Table.readerFunction.length
    refine ⟨hout, cs.take 4, (cs.drop 4).takeWhile isBlank, _, rest,
      ⟨hword, hgap, List.all_eq_true.1 List.all_takeWhile, hfunction⟩, ?_⟩
    rw [List.append_assoc, List.take_append_drop, ← List.drop_drop, drop_length_takeWhile,
      List.append_assoc, List.takeWhile_append_dropWhile, List.take_append_drop]
  · exact absurd rfl h

/-- A table position outside of words is found, whatever follows it. -/
theorem readerPosition_eq {before : Option Char} {word gap function : List Char}
    (h : Position word gap function) (ho : Outside before) (rest : List Char) :
    readerPosition before (word ++ gap ++ function ++ rest) =
      ((word ++ gap ++ function).length, word ++ gap ++ readerTable.toList) := by
  have hw := h.word_length
  have hf : function.length = Table.readerFunction.length := by
    rw [h.function_length, String.length_toList]
  have hgap : (gap ++ (function ++ rest)).takeWhile isBlank = gap := by
    obtain ⟨c, cs, rfl, -⟩ := h.function_eq_cons
    exact takeWhile_blanks h.blank (h.not_blank_of_mem_function List.mem_cons_self)
  have htake : (word ++ (gap ++ (function ++ rest))).take 4 = word := by
    rw [← hw, List.take_left]
  have hdrop : (word ++ (gap ++ (function ++ rest))).drop 4 = gap ++ (function ++ rest) := by
    rw [← hw, List.drop_left]
  have hfun : ((word ++ (gap ++ (function ++ rest))).drop (4 + gap.length)).take
      Table.readerFunction.length = function := by
    rw [← List.drop_drop, hdrop, List.drop_left, ← hf, List.take_left]
  simp only [List.append_assoc, readerPosition, htake, hdrop, hgap, hfun]
  rw [if_pos]
  · simp [hw, Nat.add_assoc]
  · simpa [Outside, h.function, h.gap_ne_nil] using And.intro ho h.word

/-- A position is found just where one stands outside of words. -/
theorem readerPosition_ne_zero_iff {before : Option Char} {cs : List Char} :
    (readerPosition before cs).1 ≠ 0 ↔ Outside before ∧ ∃ word gap function rest,
      Position word gap function ∧ cs = word ++ gap ++ function ++ rest := by
  refine ⟨position_of_readerPosition, ?_⟩
  rintro ⟨ho, word, gap, function, rest, hp, rfl⟩
  rw [readerPosition_eq hp ho]
  simp [hp.word_length]

theorem readerPosition_append_ne_zero {before : Option Char} {a : List Char}
    (h : (readerPosition before a).1 ≠ 0) (b : List Char) :
    (readerPosition before (a ++ b)).1 ≠ 0 := by
  obtain ⟨ho, word, gap, function, rest, hp, rfl⟩ := readerPosition_ne_zero_iff.1 h
  exact readerPosition_ne_zero_iff.2
    ⟨ho, word, gap, function, rest ++ b, hp, List.append_assoc _ rest b⟩

theorem readerPosition_of_copied {before : Option Char} {c : Char} {cs : List Char}
    (h : Copied c) : (readerPosition before (c :: cs)).1 = 0 := by
  apply Decidable.byContradiction
  intro hne
  obtain ⟨-, word, gap, function, rest, hp, he⟩ := readerPosition_ne_zero_iff.1 hne
  obtain ⟨d, ds, rfl, hd, -⟩ := hp.word_eq_cons
  obtain ⟨rfl, -⟩ := List.cons.inj he
  exact hd h

theorem readerPosition_eq_none {before : Option Char} {cs : List Char}
    (h : (readerPosition before cs).1 = 0) : readerPosition before cs = (0, []) := by
  unfold readerPosition at h ⊢
  dsimp only at h ⊢
  split at h
  · omega
  · next hc => rw [if_neg hc]

end FluentQuery.Embedded
