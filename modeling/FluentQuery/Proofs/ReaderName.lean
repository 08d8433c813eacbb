import FluentQuery.Proofs.Occurrences
import FluentQuery.Proofs.Redirection

/-!
Texts that name the table function of readers, in whatever case. Main statements: a text that is
put together from parts with separators between them names it only if a part does, and a text that
does not name it is kept as it is.
-/
namespace FluentQuery.Embedded

def NamesReader (cs : List Char) : Prop :=
  lowerAll Table.readerFunction.toList <:+: lowerAll cs

/-- A text to stand between parts: it does not name the function, and with its first and its last
character no name runs on. -/
structure Separator (s : List Char) : Prop where
  ne_nil : s ≠ []
  head : ∀ c ∈ s.head?, c.toLower ∉ lowerAll Table.readerFunction.toList
  last : ∀ c ∈ s.getLast?, c.toLower ∉ lowerAll Table.readerFunction.toList
  silent : ¬ NamesReader s

instance (cs : List Char) : Decidable (NamesReader cs) :=
  List.instDecidableIsInfixOfDecidableEq _ _

theorem not_namesReader_of_length_lt {cs : List Char}
    (h : cs.length < Table.readerFunction.toList.length) : ¬ NamesReader cs := by
  intro hn
  have hl := List.IsInfix.length_le hn
  simp only [lowerAll, List.length_map] at hl
  omega

theorem not_namesReader_nil : ¬ NamesReader [] := not_namesReader_of_length_lt (by decide)

theorem NamesReader.of_infix {a b : List Char} (h : NamesReader a) (hi : a <:+: b) :
    NamesReader b :=
  h.trans (hi.map Char.toLower)

instance (s : List Char) : Decidable (Separator s) :=
  decidable_of_iff (s ≠ [] ∧
      s.head?.all (fun c => decide (c.toLower ∉ lowerAll Table.readerFunction.toList)) = true ∧
      s.getLast?.all (fun c => decide (c.toLower ∉ lowerAll Table.readerFunction.toList)) = true ∧
      ¬ NamesReader s) (by
    simp only [Option.all_eq_true, decide_eq_true_eq]
    exact ⟨fun ⟨h1, h2, h3, h4⟩ => ⟨h1, h2, h3, h4⟩, fun h => ⟨h.ne_nil, h.head, h.last, h.silent⟩⟩)

theorem separator_blank : Separator " ".toList := by decide

theorem separator_dot : Separator ".".toList := by decide

theorem separator_comma : Separator ", ".toList := by decide

theorem separator_equal : Separator "=".toList := by decide

theorem separator_as : Separator " AS ".toList := by decide

theorem separator_on : Separator " ON ".toList := by decide

theorem separator_and : Separator " AND ".toList := by decide

theorem namesReader_append_cons {a b : List Char} {c : Char}
    (hc : c.toLower ∉ lowerAll Table.readerFunction.toList) (h : NamesReader (a ++ c :: b)) :
    NamesReader a ∨ NamesReader b := by
  have hne : lowerAll Table.readerFunction.toList ≠ [] := by decide
  have hlower : lowerAll (a ++ c :: b) = lowerAll a ++ c.toLower :: lowerAll b := by simp [lowerAll]
  rw [NamesReader, hlower] at h
  exact (Text.infix_append_cons_iff hne hc).1 h

namespace Separator

variable {s : List Char}

theorem not_namesReader (hs : Separator s) {a b : List Char} (ha : ¬ NamesReader a)
    (hb : ¬ NamesReader b) : ¬ NamesReader (a ++ s ++ b) := by
  obtain ⟨c, mid, rfl⟩ := List.exists_cons_of_ne_nil hs.ne_nil
  intro h
  rw [List.append_assoc, List.cons_append] at h
  rcases namesReader_append_cons (hs.head c rfl) h with h | h
  · exact ha h
  · rcases List.eq_nil_or_concat mid with rfl | ⟨mid, d, rfl⟩
    · exact hb h
    · have hd := hs.last d (by simp [List.getLast?_cons])
      rw [List.concat_eq_append, List.append_assoc, List.singleton_append] at h
      rcases namesReader_append_cons hd h with h | h
      · exact hs.silent (h.of_infix ⟨[c], [d], by simp⟩)
      · exact hb h

theorem not_namesReader_intercalate (hs : Separator s) {parts : List (List Char)}
    (h : ∀ part ∈ parts, ¬ NamesReader part) : ¬ NamesReader (s.intercalate parts) := by
  induction parts with
  | nil => exact not_namesReader_nil
  | cons a parts ih =>
    cases parts with
    | nil => simpa using h
    | cons b parts =>
      rw [List.intercalate_cons_cons]
      exact hs.not_namesReader (h a List.mem_cons_self)
        (ih fun part hp => h part (List.mem_cons_of_mem a hp))

theorem not_namesReader_texts {s : String} (hs : Separator s.toList) {texts : List String}
    (h : ∀ text ∈ texts, ¬ NamesReader text.toList) :
    ¬ NamesReader (s.intercalate texts).toList := by
  rw [String.toList_intercalate]
  refine hs.not_namesReader_intercalate fun part hp => ?_
  obtain ⟨text, ht, rfl⟩ := List.mem_map.1 hp
  exact h text ht

end Separator

theorem HasPosition.namesReader {before : Option Char} {cs : List Char}
    (h : HasPosition before cs) : NamesReader cs := by
  obtain ⟨lead, word, gap, function, rest, rfl, hp, -⟩ := h
  have hf : NamesReader function := by simp [NamesReader, hp.function]
  exact hf.of_infix ⟨lead ++ (word ++ gap), rest, by simp⟩

theorem redirectedFrom_of_not_namesReader {before : Option Char} {cs : List Char}
    (h : ¬ NamesReader cs) : redirectedFrom before cs = cs :=
  redirectedFrom_eq_self_iff.2 fun hp => h hp.namesReader

end FluentQuery.Embedded
