import FluentQuery.Json.Printer

/-!
The characters of compact texts. Main statement: none of them is a control character, so that a
value on a line stays on it.
-/
namespace FluentQuery

def Printable (c : Char) : Prop := 32 ≤ c.toNat

instance (c : Char) : Decidable (Printable c) := Nat.decLe _ _

theorem printable_of_all {cs : List Char} (h : cs.all (fun c => decide (Printable c)) = true) :
    ∀ c ∈ cs, Printable c := by simpa using h

theorem printable_of_isDigit {c : Char} (h : c.isDigit = true) : Printable c := by
  have hlow : 48 ≤ c.toNat := decide_eq_true_iff.1 (Bool.and_eq_true_iff.1 h).1
  exact Nat.le_trans (by decide) hlow

theorem printable_toDigits (n : Nat) : ∀ c ∈ Nat.toDigits 10 n, Printable c := fun _ hc =>
  printable_of_isDigit (Nat.isDigit_of_mem_toDigits (by decide) (by decide) hc)

theorem printable_integerChars (n : Int) : ∀ c ∈ integerChars n, Printable c := by
  have hdigits := printable_toDigits n.natAbs
  unfold integerChars
  split
  · exact List.forall_mem_cons.2 ⟨by decide, hdigits⟩
  · exact hdigits

theorem printable_replicate (n : Nat) : ∀ c ∈ List.replicate n '0', Printable c := by
  intro c hc
  rw [(List.mem_replicate.1 hc).2]
  decide

section Digits

variable {digits : List Char}

theorem printable_dropTrailingZeros (h : ∀ c ∈ digits, Printable c) :
    ∀ c ∈ (dropTrailingZeros digits).1, Printable c := by
  intro c hc
  rw [dropTrailingZeros, List.mem_reverse] at hc
  exact h c (List.mem_reverse.1 ((List.dropWhile_sublist _).subset hc))

theorem printable_positional (h : ∀ c ∈ digits, Printable c) (point : Int) :
    ∀ c ∈ positional digits point, Printable c := by
  have hwhole : ∀ c ∈ digits.take point.toNat, Printable c := fun c hc =>
    h c (List.mem_of_mem_take hc)
  have hfraction : ∀ c ∈ digits.drop point.toNat, Printable c := fun c hc =>
    h c (List.mem_of_mem_drop hc)
  unfold positional
  split
  · simp only [List.forall_mem_append]
    exact ⟨⟨printable_of_all rfl, printable_replicate _⟩, h⟩
  · simp only [List.forall_mem_append]
    refine ⟨⟨⟨hwhole, printable_replicate _⟩, printable_of_all rfl⟩, ?_⟩
    split
    · exact printable_of_all rfl
    · exact hfraction

theorem printable_scientific (plus : Bool) (h : ∀ c ∈ digits, Printable c) (exponent : Int) :
    ∀ c ∈ scientific plus digits exponent, Printable c := by
  have hsign : ∀ c ∈ (if exponent < 0 then ['-'] else if plus then ['+'] else []), Printable c := by
    split
    · exact printable_of_all rfl
    · split <;> exact printable_of_all rfl
  unfold scientific
  simp only [List.forall_mem_append]
  refine ⟨⟨⟨?_, printable_of_all rfl⟩, hsign⟩, printable_toDigits _⟩
  split
  · next first second rest =>
    simp only [List.forall_mem_cons] at h ⊢
    exact ⟨h.1, by decide, h.2⟩
  · exact h

end Digits

theorem Finite.printable_chars {f : FloatFormat} (layout : FloatLayout) (x : Finite f) :
    ∀ c ∈ x.chars layout, Printable c := by
  have hsign : ∀ c ∈ (if x.negative then ['-'] else []), Printable c := by
    split <;> exact printable_of_all rfl
  have hdigits := printable_dropTrailingZeros (printable_toDigits (x.shortest layout.tie).1)
  by_cases hzero : x.isZero = true
  · simp only [Finite.chars, if_pos hzero, List.forall_mem_append]
    exact ⟨hsign, printable_of_all rfl⟩
  · simp only [Finite.chars, if_neg hzero, List.forall_mem_append]
    refine ⟨hsign, ?_⟩
    split
    · exact printable_positional hdigits _
    · exact printable_scientific _ hdigits _

namespace Json

theorem printable_escaped (c : Char) : ∀ d ∈ escaped c, Printable d := by
  by_cases hc : 32 ≤ c.toNat
  · unfold escaped
    split <;> try exact printable_of_all rfl
    split
    · omega
    · split
      · omega
      · exact List.forall_mem_singleton.2 hc
  · have hcontrol : ∀ n < 32, (escaped (Char.ofNat n)).all (fun d => decide (Printable d)) =
        true := by decide
    have hofNat := hcontrol c.toNat (by omega)
    rw [Char.ofNat_toNat] at hofNat
    exact printable_of_all hofNat

theorem printable_quoted (s : String) : ∀ c ∈ quoted s, Printable c := by
  unfold quoted
  rw [List.cons_append, List.forall_mem_cons, List.forall_mem_append]
  refine ⟨by decide, fun c hc => ?_, printable_of_all rfl⟩
  obtain ⟨d, -, hd⟩ := List.mem_flatMap.1 hc
  exact printable_escaped d c hd

mutual

theorem printable_chars : ∀ j : Json, ∀ c ∈ j.chars, Printable c
  | .null => by rw [chars]; exact printable_of_all rfl
  | .bool b => by rw [chars]; cases b <;> exact printable_of_all rfl
  | .int n => by rw [chars]; exact printable_integerChars n.val
  | .float x => by rw [chars]; exact x.printable_chars .json
  | .str s => by rw [chars]; exact printable_quoted s
  | .arr items => by
    rw [chars, List.cons_append, List.forall_mem_cons, List.forall_mem_append]
    exact ⟨by decide, printable_itemChars items, printable_of_all rfl⟩
  | .obj entries => by
    rw [chars, List.cons_append, List.forall_mem_cons, List.forall_mem_append]
    exact ⟨by decide, printable_entryChars entries, printable_of_all rfl⟩

theorem printable_itemChars : ∀ items : List Json, ∀ c ∈ itemChars items, Printable c
  | [] => by rw [itemChars]; simp
  | [item] => by rw [itemChars]; exact printable_chars item
  | item :: other :: items => by
    rw [itemChars, List.forall_mem_append, List.forall_mem_cons]
    · exact ⟨printable_chars item, by decide, printable_itemChars (other :: items)⟩
    · simp

theorem printable_entryChars : ∀ entries : List (String × Json), ∀ c ∈ entryChars entries,
    Printable c
  | [] => by rw [entryChars]; simp
  | [(key, value)] => by
    rw [entryChars, List.forall_mem_append, List.forall_mem_cons]
    exact ⟨printable_quoted key, by decide, printable_chars value⟩
  | (key, value) :: other :: entries => by
    rw [entryChars, List.append_assoc, List.forall_mem_append, List.cons_append,
      List.forall_mem_cons, List.forall_mem_append, List.forall_mem_cons]
    · exact ⟨printable_quoted key, by decide, printable_chars value, by decide,
        printable_entryChars (other :: entries)⟩
    · simp

end

/-- A compact text is on one line. -/
theorem not_mem_text (j : Json) : '\n' ∉ j.text.toList := by
  rw [toList_text]
  intro h
  exact absurd (printable_chars j _ h) (by decide)

end Json

end FluentQuery
