import FluentQuery.Oracle.Request
import FluentQuery.Proofs.Occurrences
import Mathlib.Data.List.Infix

/-!
Code fences in the answer of an oracle. Main statements: of a run of marks the removal of fences
leaves less than a fence, and so no fence is left anywhere; a statement that holds no fence is found
again within a fence or without one, also in the first text block of a longer answer.
-/
namespace FluentQuery.Oracle
open Text

def mark : Char := '\x60'

def marks (n : Nat) : List Char := List.replicate n mark

theorem marks_append_cons (n : Nat) (cs : List Char) :
    marks n ++ mark :: cs = marks (n + 1) ++ cs := by
  rw [marks, marks, List.replicate_succ', List.append_assoc, List.singleton_append]

theorem marks_add (m n : Nat) : marks (m + n) = marks m ++ marks n := by
  rw [marks, marks, marks, List.replicate_append_replicate]

theorem fence_eq : fence = marks 3 := rfl

/-- A text is made of runs of marks and one other character after each but the last. -/
@[elab_as_elim]
theorem runs_induction {motive : List Char → Prop} (run : ∀ n, motive (marks n))
    (next : ∀ n c cs, c ≠ mark → motive cs → motive (marks n ++ c :: cs)) (cs : List Char) :
    motive cs := by
  have hall : ∀ n, motive (marks n ++ cs) := by
    induction cs with
    | nil => exact fun n => (List.append_nil (marks n)).symm ▸ run n
    | cons c cs ih =>
      intro n
      by_cases hc : c = mark
      · rw [hc, marks_append_cons]
        exact ih (n + 1)
      · exact next n c cs hc (ih 0)
  exact hall 0

theorem fence_infix_marks_iff {n : Nat} : fence <:+: marks n ↔ 3 ≤ n := by
  constructor
  · intro h
    simpa [fence_eq, marks] using h.length_le
  · intro h
    refine ⟨[], marks (n - 3), ?_⟩
    rw [List.nil_append, fence_eq, ← marks_add, Nat.add_sub_cancel' h]

theorem not_mem_fence {c : Char} (hc : c ≠ mark) : c ∉ fence := by
  simpa [fence_eq, marks] using hc

theorem fence_infix_run_iff {n : Nat} {c : Char} {cs : List Char} (hc : c ≠ mark) :
    fence <:+: marks n ++ c :: cs ↔ 3 ≤ n ∨ fence <:+: cs := by
  rw [infix_append_cons_iff (by decide) (not_mem_fence hc), fence_infix_marks_iff]

/-- Neither in a run of less than three nor before the end of it a fence begins. -/
theorem not_isPrefix_run {n : Nat} (hn : n < 3) {rest : List Char} (h : rest.head? ≠ some mark) :
    ¬ fence <+: marks n ++ rest := by
  intro hlead
  obtain ⟨k, hk⟩ : ∃ k, n + (k + 1) = 3 := ⟨2 - n, by omega⟩
  have hfence : fence = marks n ++ marks (k + 1) := by rw [← marks_add, hk, fence_eq]
  rw [hfence, List.prefix_append_right_inj] at hlead
  obtain ⟨tail, rfl⟩ := hlead
  exact h rfl

/-- Of a run the removal of fences leaves the remainder. -/
theorem removeAll_run (n : Nat) {rest : List Char} (h : rest.head? ≠ some mark) :
    removeAll fence (marks n ++ rest) = marks (n % 3) ++ removeAll fence rest := by
  have hshort : ∀ m, m < 3 →
      removeAll fence (marks m ++ rest) = marks m ++ removeAll fence rest := by
    intro m hm
    induction m with
    | zero => rfl
    | succ m ih =>
      have hcons : marks (m + 1) ++ rest = mark :: (marks m ++ rest) := rfl
      have hlead := not_isPrefix_run hm h
      rw [hcons] at hlead ⊢
      rw [removeAll_cons hlead, ih (Nat.lt_of_succ_lt hm)]
      rfl
  induction n using Nat.strongRecOn with
  | ind n ih =>
    by_cases hn : n < 3
    · rw [hshort n hn, Nat.mod_eq_of_lt hn]
    · obtain ⟨m, rfl⟩ := Nat.exists_eq_add_of_le (Nat.not_lt.1 hn)
      rw [marks_add, List.append_assoc, ← fence_eq, removeAll_append (by decide),
        ih m (by omega), Nat.add_mod_left]

theorem removeAll_marks (n : Nat) : removeAll fence (marks n) = marks (n % 3) := by
  have hrun := @removeAll_run n [] (by simp)
  simpa using hrun

theorem removeAll_run_cons (n : Nat) {c : Char} (hc : c ≠ mark) (cs : List Char) :
    removeAll fence (marks n ++ c :: cs) = marks (n % 3) ++ c :: removeAll fence cs := by
  have hhead : (c :: cs).head? ≠ some mark := by simpa using hc
  have hlead : ¬ fence <+: c :: cs := @not_isPrefix_run 0 (by decide) (c :: cs) hhead
  rw [removeAll_run n hhead, removeAll_cons hlead]

theorem not_fence_infix_removeAll (cs : List Char) : ¬ fence <:+: removeAll fence cs := by
  have hrest : ∀ n, ¬ 3 ≤ n % 3 := fun n => Nat.not_le.2 (Nat.mod_lt n (by decide))
  induction cs using runs_induction with
  | run n =>
    rw [removeAll_marks, fence_infix_marks_iff]
    exact hrest n
  | next n c cs hc ih =>
    rw [removeAll_run_cons n hc, fence_infix_run_iff hc]
    exact not_or.2 ⟨hrest n, ih⟩

/-- Of a text without a fence and a fence behind it just the fence is removed, though the text may
end with marks. -/
theorem removeAll_append_fence {cs : List Char} (h : ¬ fence <:+: cs) :
    removeAll fence (cs ++ fence) = cs := by
  induction cs using runs_induction with
  | run n =>
    rw [fence_infix_marks_iff] at h
    have hfence : marks n ++ fence = marks (n + 3) := (marks_add n 3).symm
    rw [hfence, removeAll_marks, Nat.add_mod_right, Nat.mod_eq_of_lt (Nat.lt_of_not_le h)]
  | next n c cs hc ih =>
    rw [fence_infix_run_iff hc, not_or] at h
    rw [List.append_assoc, List.cons_append, removeAll_run_cons n hc, ih h.2,
      Nat.mod_eq_of_lt (Nat.lt_of_not_le h.1)]

/-- No fence that names the language is put together of a text without a fence and a fence. -/
theorem not_sqlFence_infix {cs : List Char} (h : ¬ fence <:+: cs) :
    ¬ sqlFence <:+: cs ++ fence := by
  have hpart : fence <:+: sqlFence := ⟨[], "sql".toList, rfl⟩
  intro hinside
  rcases List.infix_append_iff_ne_nil.1 hinside with hcs | hfence | ⟨s, t, -, ht, hsplit, -, hlead⟩
  · exact h (hpart.trans hcs)
  · exact absurd hfence.length_le (by decide)
  · obtain ⟨last, hlast⟩ := Option.ne_none_iff_exists'.1 (mt List.getLast?_eq_none_iff.1 ht)
    have hname : sqlFence.getLast? = some last := by
      rw [hsplit, List.getLast?_append, hlast, Option.some_or]
    obtain rfl : 'l' = last := Option.some.inj hname
    exact absurd (hlead.subset (List.mem_of_getLast? hlast)) (by decide)

/-! The statement in an answer. -/

/-- The ways to hand over a statement: within a fence that names the language, on a line of its own
within a fence, and as it is. -/
inductive Wrapping where
  | named
  | plain
  | bare
deriving DecidableEq, Repr

def Wrapping.around : Wrapping → String → String
  | named, s => "```sql" ++ s ++ "```"
  | plain, s => "```\n" ++ s ++ "```"
  | bare, s => s

theorem trimmed_fenced {lead : List Char} (hlead : lead.head? = some mark) (cs : List Char) :
    trimmed (lead ++ (cs ++ fence)) = lead ++ (cs ++ fence) := by
  have hmark : isBlank mark = false := by decide
  refine trimmed_eq_self ⟨fun c hc => ?_, fun c hc => ?_⟩
  · rw [List.head?_append, hlead] at hc
    cases hc
    exact hmark
  · rw [← List.append_assoc, List.getLast?_append] at hc
    cases hc
    exact hmark

theorem unfenced_around {s : String} (h : ¬ fence <:+: s.toList) (wrapping : Wrapping) :
    unfenced (wrapping.around s) = trim s := by
  have hsql := not_sqlFence_infix h
  have hfence := removeAll_append_fence h
  refine congrArg String.ofList ?_
  cases wrapping with
  | named =>
    have htext : (Wrapping.named.around s).toList = sqlFence ++ (s.toList ++ fence) := by
      simp [Wrapping.around, sqlFence, fence]
    rw [htext, trimmed_fenced rfl, removeAll_append (by decide), removeAll_eq_self hsql, hfence]
  | plain =>
    have htext : (Wrapping.plain.around s).toList = marks 3 ++ '\n' :: (s.toList ++ fence) := by
      simp [Wrapping.around, fence_eq, marks, mark]
    have hlead : marks 3 ++ '\n' :: (s.toList ++ fence) =
        (fence ++ ['\n']) ++ (s.toList ++ fence) := by simp [fence_eq]
    have hnone : ¬ sqlFence <:+: marks 3 ++ '\n' :: (s.toList ++ fence) := by
      rw [infix_append_cons_iff (by decide) (by decide), not_or]
      exact ⟨fun hinside => absurd hinside.length_le (by decide), hsql⟩
    have htrim : trimmed ('\n' :: s.toList) = trimmed s.toList := by
      have hblank := @trimmed_append ['\n'] [] (List.forall_mem_singleton.2 rfl) nofun s.toList
      simpa using hblank
    rw [htext, hlead, trimmed_fenced rfl, ← hlead, removeAll_eq_self hnone,
      removeAll_run_cons 3 (by decide), hfence]
    exact htrim
  | bare =>
    have hinside := trimmed_isInfix s.toList
    have hnone : ¬ fence <:+: trimmed s.toList := fun hf => h (hf.trans hinside)
    have hnamed : ¬ sqlFence <:+: trimmed s.toList := fun hf =>
      hsql ((hf.trans hinside).trans (List.prefix_append _ _).isInfix)
    rw [Wrapping.around, removeAll_eq_self hnamed, removeAll_eq_self hnone,
      trimmed_eq_self (isTrimmed_trimmed _)]

theorem unfenced_append {front back : String} (hfront : blank front = true)
    (hback : blank back = true) (answer : String) :
    unfenced (front ++ answer ++ back) = unfenced answer := by
  have hchars := trimmed_append (List.all_eq_true.1 hfront) (List.all_eq_true.1 hback)
    answer.toList
  rw [unfenced, String.toList_append, String.toList_append, hchars, unfenced]

theorem not_fence_infix_unfenced (answer : String) : ¬ fence <:+: (unfenced answer).toList := by
  rw [unfenced, String.toList_ofList]
  exact fun h => not_fence_infix_removeAll _ (h.trans (trimmed_isInfix _))

theorem isTrimmed_unfenced (answer : String) : IsTrimmed (unfenced answer).toList := by
  rw [unfenced, String.toList_ofList]
  exact isTrimmed_trimmed _

theorem unfenced_unfenced (answer : String) : unfenced (unfenced answer) = unfenced answer :=
  (unfenced_around (not_fence_infix_unfenced answer) .bare).trans
    (trim_eq_self (isTrimmed_unfenced answer))

/-! The text block in an answer. -/

/-- The content of an answer is a list of blocks, and the first one of the type for texts holds the
text. -/
def FirstTextBlock (body : Json) (text : String) : Prop :=
  ∃ before block after, body.get? "content" = some (.arr (before ++ block :: after)) ∧
    (∀ other ∈ before, other.get? "type" ≠ some (.str "text")) ∧
    block.get? "type" = some (.str "text") ∧ block.get? "text" = some (.str text)

theorem find?_block_iff {blocks : List Json} {block : Json} :
    blocks.find? (fun block => (block.get? "type").bind Json.text? == some "text") = some block ↔
      block.get? "type" = some (.str "text") ∧ ∃ before after,
        blocks = before ++ block :: after ∧
          ∀ other ∈ before, other.get? "type" ≠ some (.str "text") := by
  have htype : ∀ block : Json, ((block.get? "type").bind Json.text? == some "text") = true ↔
      block.get? "type" = some (.str "text") := by
    simp [Option.bind_eq_some_iff, Json.text?_eq_some_iff]
  simp only [List.find?_eq_some_iff_append, Bool.not_eq_true', ← Bool.not_eq_true, htype, ne_eq]

theorem firstText_eq_ok_iff_find? {body : Json} {text : String} :
    firstText body = .ok text ↔ ∃ blocks block,
      body.get? "content" = some (.arr blocks) ∧
      blocks.find? (fun block => (block.get? "type").bind Json.text? == some "text") = some block ∧
      block.get? "text" = some (.str text) := by
  simp only [firstText, Option.bind_eq_bind]
  split
  · next found hsearch =>
    simp only [Option.bind_eq_some_iff, Json.items?_eq_some_iff, Json.text?_eq_some_iff]
      at hsearch
    grind
  · next hsearch =>
    constructor
    · intro h
      cases h
    · rintro ⟨blocks, block, hcontent, hfind, htext⟩
      simp only [hcontent, hfind, htext, Option.bind_some, Json.items?, Json.text?] at hsearch
      cases hsearch

theorem firstText_eq_ok_iff {body : Json} {text : String} :
    firstText body = .ok text ↔ FirstTextBlock body text := by
  simp only [firstText_eq_ok_iff_find?, find?_block_iff]
  constructor
  · rintro ⟨blocks, block, hcontent, ⟨htype, before, after, rfl, hbefore⟩, htext⟩
    exact ⟨before, block, after, hcontent, hbefore, htype, htext⟩
  · rintro ⟨before, block, after, hcontent, hbefore, htype, htext⟩
    exact ⟨_, block, hcontent, ⟨htype, before, after, rfl, hbefore⟩, htext⟩

/-- The unwrapping of an answer. What comes out holds no fence and no blank at its ends, and is not
changed any more. A statement without a fence comes out trimmed, whether it stands in a fence or
not, whatever blanks stand around it, and also from the first text block of a longer answer. -/
theorem unfenced_exact (answer : String) {s front back : String} (hs : ¬ fence <:+: s.toList)
    (hfront : blank front = true) (hback : blank back = true) (wrapping : Wrapping) :
    (¬ fence <:+: (unfenced answer).toList ∧ IsTrimmed (unfenced answer).toList ∧
      unfenced (unfenced answer) = unfenced answer) ∧
    unfenced (front ++ wrapping.around s ++ back) = trim s ∧
    ∀ body, FirstTextBlock body (front ++ wrapping.around s ++ back) →
      (firstText body).map unfenced = .ok (trim s) := by
  have hstatement : unfenced (front ++ wrapping.around s ++ back) = trim s :=
    (unfenced_append hfront hback _).trans (unfenced_around hs wrapping)
  refine ⟨⟨not_fence_infix_unfenced answer, isTrimmed_unfenced answer, unfenced_unfenced answer⟩,
    hstatement, fun body hbody => ?_⟩
  rw [firstText_eq_ok_iff.2 hbody, Except.map, hstatement]

/-- A statement that begins and ends with marks, in a fence with blanks around it, after a block of
another type and before one without a type. -/
theorem unfenced_exact_marks :
    let s := "``x` = 1 -- ``"
    let answer := " ```sql``x` = 1 -- `````\u2003"
    let body : Json := .obj [("content", .arr [
      .obj [("type", .str "thinking"), ("text", .str "```")],
      .obj [("type", .str "text"), ("text", .str answer)],
      .null])]
    ¬ fence <:+: s.toList ∧ blank " " = true ∧ blank "\u2003" = true ∧
      answer = " " ++ Wrapping.named.around s ++ "\u2003" ∧ FirstTextBlock body answer ∧
      unfenced answer = s ∧ (firstText body).map unfenced = .ok s := by
  intro s answer body
  have hs : ¬ fence <:+: s.toList := by decide
  have hfront : blank " " = true := by decide
  have hback : blank "\u2003" = true := by decide
  have hanswer : answer = " " ++ Wrapping.named.around s ++ "\u2003" := by decide
  have hbody : FirstTextBlock body answer := firstText_eq_ok_iff.1 rfl
  obtain ⟨-, hstatement, hblock⟩ := unfenced_exact answer hs hfront hback .named
  have htrim : trim s = s := by decide
  rw [← hanswer, htrim] at hstatement hblock
  exact ⟨hs, hfront, hback, hanswer, hbody, hstatement, hblock body hbody⟩

end FluentQuery.Oracle
