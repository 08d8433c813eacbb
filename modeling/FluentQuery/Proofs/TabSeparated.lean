import FluentQuery.Output.Delimited
import FluentQuery.Proofs.Lines
import FluentQuery.Proofs.PrefixCodes

/-!
Tab-separated rows. Nulls have a text of their own, and escapes keep tabs and line feeds out of
the fields. Main statement: the text of rows determines their cells and the names above them.
-/
namespace FluentQuery.Tsv

def plain? : Json → Option String
  | .null => none
  | v => some (cellText "" v)

def written : Option String → String
  | none => "\\N"
  | some s => field s

def letters : List (Char × Char) := [('\\', '\\'), ('\t', 't'), ('\n', 'n')]

theorem eq_of_letter : ∀ p ∈ letters, ∀ q ∈ letters, p.2 = q.2 → p.1 = q.1 := by decide

theorem escaped_cases (c : Char) :
    (∃ letter, (c, letter) ∈ letters ∧ escaped c = ['\\', letter]) ∨
      (escaped c = [c] ∧ c ≠ '\\' ∧ c ≠ '\t' ∧ c ≠ '\n') := by
  unfold escaped
  split
  · exact .inl ⟨'\\', by decide, rfl⟩
  · exact .inl ⟨'t', by decide, rfl⟩
  · exact .inl ⟨'n', by decide, rfl⟩
  · next hslash htab hfeed => exact .inr ⟨rfl, hslash, htab, hfeed⟩

theorem escaped_ne_nil (c : Char) : escaped c ≠ [] := by
  rcases escaped_cases c with ⟨letter, -, h⟩ | ⟨h, -⟩ <;> simp [h]

theorem exists_letter {c : Char} {word : List Char} (h : escaped c = '\\' :: word) :
    ∃ letter, (c, letter) ∈ letters ∧ word = [letter] := by
  rcases escaped_cases c with ⟨letter, hmem, hc⟩ | ⟨hc, hslash, -⟩
  · exact ⟨letter, hmem, (List.cons.inj (hc.symm.trans h)).2.symm⟩
  · exact absurd (List.cons.inj (hc.symm.trans h)).1 hslash

theorem prefixCode_escaped : PrefixCode escaped := by
  refine PrefixCode.of_escapes '\\' ?_ ?_
  · intro c
    rcases escaped_cases c with ⟨letter, -, h⟩ | ⟨h, hslash, -⟩
    · exact .inl ⟨_, h⟩
    · exact .inr ⟨h, hslash⟩
  · intro c d word other rest more hc hd h
    obtain ⟨letter, hletter, rfl⟩ := exists_letter hc
    obtain ⟨letter', hletter', rfl⟩ := exists_letter hd
    obtain ⟨hsame, hrest⟩ := List.cons.inj h
    exact ⟨eq_of_letter _ hletter _ hletter' hsame, hrest⟩

theorem toList_field (s : String) : (field s).toList = s.toList.flatMap escaped :=
  String.toList_ofList

def replaced (old : Char) (new : List Char) (cs : List Char) : List Char :=
  cs.flatMap fun c => if c = old then new else [c]

/-- The escapes are three replacements one after another, that of backslashes first. -/
theorem toList_field_eq_replaced (s : String) :
    (field s).toList = replaced '\n' ['\\', 'n'] (replaced '\t' ['\\', 't']
      (replaced '\\' ['\\', '\\'] s.toList)) := by
  rw [toList_field]
  simp only [replaced, List.flatMap_assoc]
  refine congrArg s.toList.flatMap (funext fun c => ?_)
  unfold escaped
  split
  · rfl
  · rfl
  · rfl
  · next hslash htab hfeed =>
    rw [if_neg hslash, List.flatMap_singleton, if_neg htab, List.flatMap_singleton, if_neg hfeed]

/-! Fields. -/

theorem field_injective {s t : String} (h : field s = field t) : s = t := by
  have hchars := congrArg String.toList h
  rw [toList_field, toList_field] at hchars
  exact String.toList_inj.1 (prefixCode_escaped.flatMap_injective escaped_ne_nil hchars)

/-- Null has a text that no field has. -/
theorem field_ne_null (s : String) : field s ≠ "\\N" := by
  intro h
  have hchars : s.toList.flatMap escaped = ['\\', 'N'] := by
    rw [← toList_field, h]
    rfl
  cases hs : s.toList with
  | nil => simp [hs] at hchars
  | cons c cs =>
    rw [hs, List.flatMap_cons] at hchars
    rcases escaped_cases c with ⟨letter, hmem, hc⟩ | ⟨hc, hslash, -⟩
    · rw [hc] at hchars
      have hletter : letter = 'N' := by simpa using (List.cons.inj (List.cons.inj hchars).2).1
      rw [hletter] at hmem
      simp [letters] at hmem
    · rw [hc] at hchars
      exact hslash (List.cons.inj hchars).1

theorem written_injective {a b : Option String} (h : written a = written b) : a = b := by
  cases a with
  | none =>
    cases b with
    | none => rfl
    | some t => exact absurd h.symm (field_ne_null t)
  | some s =>
    cases b with
    | none => exact absurd h (field_ne_null s)
    | some t => rw [field_injective h]

def line (cells : List (Option String)) : String := "\t".intercalate (cells.map written)

def lines (names : Option (List String)) (rows : List (List Json)) : List String :=
  names.toList.map (fun columns => line (columns.map some)) ++
    rows.map fun row => line (row.map plain?)

end FluentQuery.Tsv
