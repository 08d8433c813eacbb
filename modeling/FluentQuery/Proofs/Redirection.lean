import FluentQuery.Proofs.Cut

/-!
The text of a statement when its table functions of readers are replaced. Main statements: a text
changes just where it has a position, and a text in which the positions have been replaced has no
position left.
-/
namespace FluentQuery.Embedded
open Text

def redirectedFrom (before : Option Char) (cs : List Char) : List Char :=
  replaceFrom readerPosition before 0 cs

theorem redirected_eq (cs : List Char) : redirected cs = redirectedFrom none cs := rfl

theorem redirectedFrom_cons {before : Option Char} {c : Char} {cs : List Char}
    (h : (readerPosition before (c :: cs)).1 = 0) :
    redirectedFrom before (c :: cs) = c :: redirectedFrom (some c) cs := by
  rw [redirectedFrom, replaceFrom, readerPosition_eq_none h]
  rfl

theorem redirectedFrom_position {before : Option Char} {word gap function : List Char}
    (h : Position word gap function) (ho : Outside before) (rest : List Char) :
    redirectedFrom before (word ++ gap ++ function ++ rest) =
      word ++ gap ++ readerTable.toList ++ redirectedFrom (some ')') rest := by
  have hfind := readerPosition_eq h ho rest
  obtain ⟨c, cs, hc⟩ : ∃ c cs, word ++ gap ++ function = c :: cs :=
    List.exists_cons_of_length_pos (by
      have hw := h.word_length
      simp only [List.length_append]
      omega)
  obtain ⟨ds, rfl⟩ := h.function_eq_append
  have hl : cs.getLast?.or (some c) = some ')' := by
    have := congrArg List.getLast? hc
    simpa [List.getLast?_cons, eq_comm] using this
  rw [hc, List.cons_append] at hfind ⊢
  rw [redirectedFrom, replaceFrom, hfind, List.length_cons]
  dsimp only
  rw [replaceFrom_skip, hl, redirectedFrom]

/-- What a text becomes: outside of positions its characters, for each position the word and the
blanks as they are and then the name of the table. -/
inductive Redirects : Option Char → List Char → List Char → Prop
  | nil (before : Option Char) : Redirects before [] []
  | copy {before : Option Char} {c : Char} {cs out : List Char}
      (free : (readerPosition before (c :: cs)).1 = 0)
      (tail : Redirects (some c) cs out) : Redirects before (c :: cs) (c :: out)
  | position {before : Option Char} {word gap function rest out : List Char}
      (position : Position word gap function) (outside : Outside before)
      (tail : Redirects (some ')') rest out) :
      Redirects before (word ++ gap ++ function ++ rest)
        (word ++ gap ++ readerTable.toList ++ out)

theorem redirects (before : Option Char) (cs : List Char) :
    Redirects before cs (redirectedFrom before cs) := by
  induction hn : cs.length using Nat.strongRecOn generalizing before cs with
  | ind n ih =>
    by_cases h : (readerPosition before cs).1 = 0
    · cases cs with
      | nil => exact .nil before
      | cons c cs =>
        rw [redirectedFrom_cons h]
        exact .copy h (ih _ (by rw [← hn, List.length_cons]; omega) _ _ rfl)
    · obtain ⟨ho, word, gap, function, rest, hp, rfl⟩ := position_of_readerPosition h
      rw [redirectedFrom_position hp ho]
      refine .position hp ho (ih _ ?_ _ _ rfl)
      have := hp.word_length
      simp only [← hn, List.length_append]
      omega

theorem Redirects.length_le {before : Option Char} {cs out : List Char}
    (h : Redirects before cs out) : cs.length ≤ out.length := by
  induction h with
  | nil => exact Nat.le_refl _
  | copy _ _ ih => simpa using ih
  | position hp _ _ ih =>
    have hf := hp.function_length
    have ht : Table.readerFunction.toList.length ≤ readerTable.toList.length := by decide
    simp only [List.length_append]
    omega

/-- The text holds a table position with the function, the character before the text being known. -/
def HasPosition (before : Option Char) (cs : List Char) : Prop :=
  ∃ lead word gap function rest, cs = lead ++ (word ++ gap ++ function ++ rest) ∧
    Position word gap function ∧ Outside (lead.getLast?.or before)

theorem HasPosition.append {before : Option Char} {front cs : List Char}
    (h : HasPosition none cs) (ho : Outside (front.getLast?.or before)) (back : List Char) :
    HasPosition before (front ++ cs ++ back) := by
  obtain ⟨lead, word, gap, function, rest, rfl, hp, hlead⟩ := h
  refine ⟨front ++ lead, word, gap, function, rest ++ back, by simp, hp, ?_⟩
  rw [List.getLast?_append, Option.or_assoc]
  cases hl : lead.getLast? with
  | none => exact ho
  | some c => simpa [hl] using hlead

theorem not_hasPosition_nil (before : Option Char) : ¬ HasPosition before [] := by
  rintro ⟨lead, word, gap, function, rest, he, hp, -⟩
  have hl := congrArg List.length he
  simp only [List.length_append, hp.word_length, List.length_nil] at hl
  omega

theorem hasPosition_cons_iff {before : Option Char} {c : Char} {cs : List Char} :
    HasPosition before (c :: cs) ↔
      (readerPosition before (c :: cs)).1 ≠ 0 ∨ HasPosition (some c) cs := by
  constructor
  · rintro ⟨lead, word, gap, function, rest, he, hp, ho⟩
    cases lead with
    | nil => exact .inl (readerPosition_ne_zero_iff.2 ⟨ho, word, gap, function, rest, hp, he⟩)
    | cons d lead =>
      obtain ⟨rfl, rfl⟩ := List.cons.inj he
      refine .inr ⟨lead, word, gap, function, rest, rfl, hp, ?_⟩
      simpa [List.getLast?_cons] using ho
  · rintro (h | ⟨lead, word, gap, function, rest, rfl, hp, ho⟩)
    · obtain ⟨ho, word, gap, function, rest, hp, he⟩ := readerPosition_ne_zero_iff.1 h
      exact ⟨[], word, gap, function, rest, he, hp, ho⟩
    · refine ⟨c :: lead, word, gap, function, rest, rfl, hp, ?_⟩
      simpa [List.getLast?_cons] using ho

theorem Redirects.eq_of_not_hasPosition {before : Option Char} {cs out : List Char}
    (h : Redirects before cs out) (hn : ¬ HasPosition before cs) : out = cs := by
  induction h with
  | nil => rfl
  | copy _ _ ih => rw [ih fun hh => hn (hasPosition_cons_iff.2 (.inr hh))]
  | position hp ho _ _ => exact absurd ⟨[], _, _, _, _, rfl, hp, ho⟩ hn

theorem Redirects.length_lt {before : Option Char} {cs out : List Char}
    (h : Redirects before cs out) (hh : HasPosition before cs) : cs.length < out.length := by
  induction h with
  | nil => exact absurd hh (not_hasPosition_nil _)
  | copy free _ ih =>
    have hlt := ih ((hasPosition_cons_iff.1 hh).resolve_left fun hne => hne free)
    simpa using hlt
  | position hp _ tail _ =>
    have hf := hp.function_length
    have hl := tail.length_le
    have ht : Table.readerFunction.toList.length < readerTable.toList.length := by decide
    simp only [List.length_append]
    omega

theorem redirectedFrom_eq_self_iff {before : Option Char} {cs : List Char} :
    redirectedFrom before cs = cs ↔ ¬ HasPosition before cs := by
  refine ⟨fun he hh => ?_, (redirects before cs).eq_of_not_hasPosition⟩
  have hlt := (redirects before cs).length_lt hh
  rw [he] at hlt
  exact Nat.lt_irrefl _ hlt

/-- A statement is kept as it is just where it has no table position with the function. -/
theorem redirect?_eq_none_iff {sql : String} :
    redirect? sql = none ↔ ¬ HasPosition none sql.toList := by
  rw [← redirectedFrom_eq_self_iff, ← redirected_eq]
  simp [redirect?]

theorem redirect?_eq_some {sql : String} (h : HasPosition none sql.toList) :
    redirect? sql = some (String.ofList (redirected sql.toList)) := by
  have hne : redirected sql.toList ≠ sql.toList := fun he => redirectedFrom_eq_self_iff.1 he h
  simp [redirect?, hne]

/-- No position begins inside of what stands in another's stead. -/
theorem Position.copied_of_mem_tail {w g f : List Char} (h : Position w g f) {c : Char}
    (hc : c ∈ (w ++ g ++ readerTable.toList).tail) : Copied c := by
  have htable : ∀ d ∈ readerTable.toList, Copied d := forall_mem_of_all (by decide)
  obtain ⟨d, ds, rfl, -, hds⟩ := h.word_eq_cons
  rcases List.mem_append.1 hc with hc | hc
  · rcases List.mem_append.1 hc with hc | hc
    · exact hds c hc
    · exact copied_of_isBlank (h.blank c hc)
  · exact htable c hc

theorem hasPosition_of_copied_append {before : Option Char} {a b : List Char}
    (ha : ∀ c ∈ a, Copied c) (h : HasPosition before (a ++ b)) :
    HasPosition (a.getLast?.or before) b := by
  induction a generalizing before with
  | nil => exact h
  | cons c a ih =>
    have hz : (readerPosition before (c :: (a ++ b))).1 = 0 :=
      readerPosition_of_copied (ha c List.mem_cons_self)
    have htail := ih (fun d hd => ha d (List.mem_cons_of_mem c hd))
      ((hasPosition_cons_iff.1 h).resolve_left fun hne => hne hz)
    simpa [List.getLast?_cons] using htail

/-- A position in a text that begins with what stands in a position's stead comes after that. -/
theorem Position.hasPosition_of_table {before : Option Char} {w g f out : List Char}
    (h : Position w g f) (hh : HasPosition before (w ++ g ++ readerTable.toList ++ out)) :
    HasPosition (some 'r') out := by
  obtain ⟨c, cs, rfl, -⟩ := h.word_eq_cons
  rcases hasPosition_cons_iff.1 hh with hne | hh
  · exact absurd ((h.cut_table out).readerPosition_eq_zero before) hne
  · have htail := hasPosition_of_copied_append (fun d hd => h.copied_of_mem_tail hd) hh
    have hr : readerTable.toList.getLast? = some 'r' := by decide
    simpa [List.getLast?_append, hr] using htail

/-- A position that begins before a text and is found after replacing was there before. -/
theorem Redirects.readerPosition_ne_zero {before : Option Char} {cs out : List Char}
    (h : Redirects before cs out) {before' : Option Char} {front : List Char}
    (hout : (readerPosition before' (front ++ out)).1 ≠ 0) :
    (readerPosition before' (front ++ cs)).1 ≠ 0 := by
  induction h generalizing front with
  | nil => exact hout
  | @copy before c cs out _ _ ih =>
    rw [List.append_cons] at hout ⊢
    exact ih hout
  | position hp _ _ _ =>
    have hfront : (readerPosition before' front).1 ≠ 0 := fun hz =>
      hout (readerPosition_append_eq_zero (hp.cut_table _) hz)
    exact readerPosition_append_ne_zero hfront _

/-- Neither a position that was there nor a new one stands in a text after replacing. -/
theorem Redirects.not_hasPosition {before : Option Char} {cs out : List Char}
    (h : Redirects before cs out) {before' : Option Char}
    (ho : Outside before' → Outside before) : ¬ HasPosition before' out := by
  induction h generalizing before' with
  | nil => exact not_hasPosition_nil _
  | @copy before c cs out free tail ih =>
    intro hh
    rcases hasPosition_cons_iff.1 hh with hne | hh
    · have hcs := @Redirects.readerPosition_ne_zero _ _ _ tail before' [c] hne
      obtain ⟨hout, hp⟩ := readerPosition_ne_zero_iff.1 hcs
      exact readerPosition_ne_zero_iff.2 ⟨ho hout, hp⟩ free
    · exact ih id hh
  | position hp _ _ ih =>
    -- the table ends in a letter where the function ended in a bracket, so no word begins there
    have hword : Outside (some 'r') → Outside (some ')') := by decide
    exact fun hh => ih hword (hp.hasPosition_of_table hh)

theorem not_hasPosition_redirected (cs : List Char) : ¬ HasPosition none (redirected cs) :=
  (redirects none cs).not_hasPosition id

end FluentQuery.Embedded
