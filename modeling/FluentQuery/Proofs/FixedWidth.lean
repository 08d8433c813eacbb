import FluentQuery.Number.Integer
import Mathlib.Data.List.Forall2

/-!
Numbers in fields of a fixed width. Main statements: a field is read back as its number, and texts
of several fields are ordered, character by character, as the lists of their numbers are.
-/
namespace FluentQuery

/-- Of two texts with fronts of one length the fronts are compared first. -/
theorem append_lt_append_iff {α : Type} [LT α] {front front' back back' : List α}
    (h : front.length = front'.length) :
    front ++ back < front' ++ back' ↔ front < front' ∨ front = front' ∧ back < back' := by
  induction front generalizing front' with
  | nil =>
    obtain rfl : front' = [] := List.length_eq_zero_iff.1 h.symm
    rw [List.nil_append, List.nil_append, or_iff_right (List.not_lt_nil _), and_iff_right rfl]
  | cons a front ih =>
    obtain ⟨b, front', rfl⟩ := List.exists_cons_of_length_eq_add_one h.symm
    have htail := ih (Nat.succ.inj h)
    rw [List.cons_append, List.cons_append, List.cons_lt_cons_iff, List.cons_lt_cons_iff, htail,
      List.cons.injEq]
    grind

/-! Digits and their numbers. -/

section Digits

variable {cs ds : List Char}

theorem ofDigitChars_ten_cons (c : Char) (cs : List Char) :
    Nat.ofDigitChars 10 (c :: cs) 0 =
      Nat.pow 10 cs.length * (c.toNat - '0'.toNat) + Nat.ofDigitChars 10 cs 0 := by
  rw [Nat.ofDigitChars_cons, Nat.ofDigitChars_eq_ofDigitChars_zero, Nat.mul_zero, Nat.zero_add,
    Nat.pow_eq]

theorem ofDigitChars_lt (h : ∀ c ∈ cs, c.isDigit = true) :
    Nat.ofDigitChars 10 cs 0 < Nat.pow 10 cs.length := by
  induction cs with
  | nil => exact Nat.one_pos
  | cons c cs ih =>
    obtain ⟨hc, hcs⟩ := List.forall_mem_cons.1 h
    have hdigit : c.toNat - '0'.toNat ≤ 9 := by
      have hrange := Char.isDigit_iff_toNat.1 hc
      have hnine : '9'.toNat = '0'.toNat + 9 := rfl
      omega
    have hlead : Nat.pow 10 cs.length * (c.toNat - '0'.toNat) ≤ Nat.pow 10 cs.length * 9 :=
      Nat.mul_le_mul_left _ hdigit
    have htail := ih hcs
    have hunit : Nat.pow 10 (c :: cs).length = Nat.pow 10 cs.length * 10 := Nat.pow_succ _ _
    rw [ofDigitChars_ten_cons, hunit]
    omega

/-- Of two numbers with remainders the quotients are compared first. -/
theorem mul_add_lt_mul_add_iff {unit a b x y : Nat} (hx : x < unit) (hy : y < unit) :
    unit * a + x < unit * b + y ↔ a < b ∨ a = b ∧ x < y := by
  have hstep : ∀ {m n : Nat}, m < n → unit * m + unit ≤ unit * n := fun h =>
    Nat.mul_le_mul_left unit h
  rcases Nat.lt_trichotomy a b with hlt | rfl | hgt
  · have hle := hstep hlt
    omega
  · omega
  · have hle := hstep hgt
    omega

theorem lt_iff_ofDigitChars_lt (hcs : ∀ c ∈ cs, c.isDigit = true)
    (hds : ∀ d ∈ ds, d.isDigit = true) (hlength : cs.length = ds.length) :
    cs < ds ↔ Nat.ofDigitChars 10 cs 0 < Nat.ofDigitChars 10 ds 0 := by
  induction cs generalizing ds with
  | nil =>
    obtain rfl : ds = [] := List.length_eq_zero_iff.1 hlength.symm
    exact iff_of_false (List.not_lt_nil _) (Nat.lt_irrefl _)
  | cons c cs ih =>
    obtain ⟨d, ds, rfl⟩ := List.exists_cons_of_length_eq_add_one hlength.symm
    obtain ⟨hc, hcs⟩ := List.forall_mem_cons.1 hcs
    obtain ⟨hd, hds⟩ := List.forall_mem_cons.1 hds
    have hsame : cs.length = ds.length := Nat.succ.inj hlength
    have hctail := ofDigitChars_lt hcs
    have hdtail := ofDigitChars_lt hds
    rw [← hsame] at hdtail
    rw [List.cons_lt_cons_iff, ih hcs hds hsame, ofDigitChars_ten_cons, ofDigitChars_ten_cons,
      ← hsame, mul_add_lt_mul_add_iff hctail hdtail]
    have hc0 := (Char.isDigit_iff_toNat.1 hc).1
    have hd0 := (Char.isDigit_iff_toNat.1 hd).1
    have hlt : c < d ↔ c.toNat < d.toNat := Iff.rfl
    have hinj : c.toNat = d.toNat ↔ c = d := Char.toNat_inj
    rw [hlt, ← hinj]
    omega

end Digits

theorem isDigit_padded (width n : Nat) : ∀ c ∈ (padded width n).toList, c.isDigit = true := by
  intro c hc
  rw [padded, String.toList_ofList] at hc
  rcases List.mem_append.1 hc with hzero | hdigit
  · rw [List.eq_of_mem_replicate hzero]
    rfl
  · exact Nat.isDigit_of_mem_toDigits (by decide) (by decide) hdigit

theorem padded_ne_nil (width n : Nat) : (padded width n).toList ≠ [] := by
  rw [padded, String.toList_ofList]
  exact List.append_ne_nil_of_right_ne_nil _ Nat.toDigits_ne_nil

theorem ofDigitChars_padded (width n : Nat) :
    Nat.ofDigitChars 10 (padded width n).toList 0 = n := by
  rw [padded, String.toList_ofList, Nat.ofDigitChars_append, Nat.ofDigitChars_replicate_zero,
    Nat.mul_zero, Nat.ofDigitChars_ten_toDigits]

theorem length_padded {width n : Nat} (hwidth : 0 < width) (h : n < Nat.pow 10 width) :
    (padded width n).toList.length = width := by
  have hdigits := (Nat.length_toDigits_le_iff (by decide) hwidth).2 h
  rw [padded, String.toList_ofList, List.length_append, List.length_replicate]
  omega

theorem padded_lt_padded_iff {width m n : Nat} (hwidth : 0 < width) (hm : m < Nat.pow 10 width)
    (hn : n < Nat.pow 10 width) :
    (padded width m).toList < (padded width n).toList ↔ m < n := by
  have hlength := (length_padded hwidth hm).trans (length_padded hwidth hn).symm
  rw [lt_iff_ofDigitChars_lt (isDigit_padded width m) (isDigit_padded width n) hlength,
    ofDigitChars_padded, ofDigitChars_padded]

theorem padded_inj {width m n : Nat} :
    (padded width m).toList = (padded width n).toList ↔ m = n := by
  constructor
  · intro h
    rw [← ofDigitChars_padded width m, h, ofDigitChars_padded]
  · rintro rfl
    rfl

/-! Texts of several fields. -/

structure FixedField where
  width : Nat
  mark : List Char
  width_pos : 0 < width

def FixedField.Fits (field : FixedField) (n : Nat) : Prop := n < Nat.pow 10 field.width

def stamp : List FixedField → List Nat → List Char
  | field :: fields, n :: ns => (padded field.width n).toList ++ (field.mark ++ stamp fields ns)
  | _, _ => []

variable {fields : List FixedField} {ms ns : List Nat}

theorem isDigit_or_mem_mark_of_mem_stamp {c : Char} (h : c ∈ stamp fields ns) :
    c.isDigit = true ∨ ∃ field ∈ fields, c ∈ field.mark := by
  induction fields generalizing ns with
  | nil => cases h
  | cons field fields ih =>
    cases ns with
    | nil => cases h
    | cons n ns =>
      rw [stamp, List.mem_append, List.mem_append] at h
      rcases h with hdigit | hmark | hrest
      · exact .inl (isDigit_padded _ _ c hdigit)
      · exact .inr ⟨field, .head _, hmark⟩
      · exact (ih hrest).imp_right fun ⟨later, hlater, hmark⟩ => ⟨later, .tail _ hlater, hmark⟩

theorem stamp_lt_stamp_iff (hms : List.Forall₂ FixedField.Fits fields ms)
    (hns : List.Forall₂ FixedField.Fits fields ns) :
    stamp fields ms < stamp fields ns ↔ ms < ns := by
  induction hms generalizing ns with
  | nil =>
    cases hns
    simp [stamp]
  | @cons field m fields ms hm hms ih =>
    obtain ⟨n, rest, hn, hrest, rfl⟩ := List.forall₂_cons_left_iff.1 hns
    have hlength := (length_padded field.width_pos hm).trans (length_padded field.width_pos hn).symm
    rw [stamp, stamp, append_lt_append_iff hlength, append_lt_append_iff rfl, ih hrest,
      padded_lt_padded_iff field.width_pos hm hn, padded_inj, List.cons_lt_cons_iff,
      or_iff_right (List.lt_irrefl _), and_iff_right rfl]

end FluentQuery
