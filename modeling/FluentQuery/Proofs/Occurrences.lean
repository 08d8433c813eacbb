import FluentQuery.Text.Scan

/-!
Where patterns stand in texts. Main statements: a pattern does not span a character that it does not
have, and what is found at no place but the front of a text is found there.
-/
namespace FluentQuery.Text

theorem infix_append_cons_iff {pattern front back : List Char} {c : Char} (hne : pattern ≠ [])
    (hc : c ∉ pattern) :
    pattern <:+: front ++ c :: back ↔ pattern <:+: front ∨ pattern <:+: back := by
  have hstart : ∀ {part : List Char}, part ≠ [] → part <+: c :: back → c ∈ part := by
    intro part hpart hprefix
    obtain ⟨d, part, rfl⟩ := List.exists_cons_of_ne_nil hpart
    obtain ⟨rfl, -⟩ := List.cons_prefix_cons.1 hprefix
    exact List.mem_cons_self
  constructor
  · intro h
    rcases List.infix_append_iff_ne_nil.1 h with hfront | hback | ⟨s, t, -, ht, he, -, hprefix⟩
    · exact .inl hfront
    · rcases List.infix_cons_iff.1 hback with hprefix | hback
      · exact absurd (hstart hne hprefix) hc
      · exact .inr hback
    · exact absurd (he ▸ List.mem_append_right _ (hstart ht hprefix)) hc
  · rintro (h | h)
    · exact h.trans (List.prefix_append front _).isInfix
    · exact (h.trans (List.suffix_cons c back).isInfix).trans
        (List.suffix_append front _).isInfix

variable {α : Type} {find : List Char → Option α} {cs : List Char}

theorem firstAmong_eq_none (h : ∀ rest, rest <:+ cs → find rest = none) :
    firstAmong find cs = none := by
  induction cs with
  | nil => exact h [] (List.suffix_refl _)
  | cons c cs ih =>
    rw [firstAmong, h _ (List.suffix_refl _)]
    exact ih fun rest hrest => h rest (hrest.trans (List.suffix_cons c cs))

theorem firstAmong_eq_front (h : ∀ rest, rest <:+ cs.tail → find rest = none) :
    firstAmong find cs = find cs := by
  cases cs with
  | nil => rfl
  | cons c cs =>
    have hlater : firstAmong find cs = none := firstAmong_eq_none h
    rw [firstAmong, hlater]
    cases find (c :: cs) <;> rfl

end FluentQuery.Text
