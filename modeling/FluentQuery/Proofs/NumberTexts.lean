import FluentQuery.Number.Layout
import FluentQuery.Proofs.Numerals
import FluentQuery.Proofs.ShortestDigits

/-!
The texts of finite numbers. Main statement: the text of a number in a JSON text is a numeral, in
one layout or the other, and the number is the one nearest to what this numeral stands for.
-/
namespace FluentQuery

structure Significand where
  digits : List Char
  digits_ne_nil : digits ≠ []
  isDigit_of_mem : ∀ c ∈ digits, c.isDigit = true
  head_ne_zero : digits.head? ≠ some '0'

namespace Significand

def value (s : Significand) : Nat := Nat.ofDigitChars 10 s.digits 0

/-- A numeral that stands for the digits with a point after the first `point` of them, whatever
zeros it has after the digits. -/
def Writes (s : Significand) (negative : Bool) (point : Int) (n : Numeral) : Prop :=
  ∃ k : Nat, n.decimal = ⟨negative, s.value * Nat.pow 10 k, point - s.digits.length - k⟩

theorem Writes.toBinary {s : Significand} {negative : Bool} {point : Int} {n : Numeral}
    {x : Finite .double} (h : s.Writes negative point n) (hpos : 0 < s.value)
    (hx : Decimal.toBinary .double ⟨negative, s.value, point - s.digits.length⟩ = .finite x) :
    n.decimal.toBinary .double = .finite x := by
  obtain ⟨k, hk⟩ := h
  rw [hk, Decimal.toBinary_shift _ _ hpos, hx]

theorem ofDigits_eq {negative : Bool} {whole fraction : List Char} {exponent e : Int}
    {coefficient : Nat} (hcoefficient : Nat.ofDigitChars 10 (whole ++ fraction) 0 = coefficient)
    (he : exponent - fraction.length = e) :
    Decimal.ofDigits negative whole fraction exponent = ⟨negative, coefficient, e⟩ := by
  rw [Decimal.ofDigits, hcoefficient, he]

variable (s : Significand) (negative : Bool)

theorem ofDigitChars_digits : Nat.ofDigitChars 10 s.digits 0 = s.value * Nat.pow 10 0 :=
  (Nat.mul_one _).symm

theorem isDigit_replicate (n : Nat) : ∀ c ∈ List.replicate n '0', c.isDigit = true := by
  intro c hc
  rw [(List.mem_replicate.1 hc).2]
  rfl

/-- The numeral with its point after zeros and in front of the digits. -/
def afterPoint (zeros : Nat) : Numeral where
  negative := negative
  whole := ['0']
  fraction := List.replicate zeros '0' ++ s.digits
  exponent := none
  whole_ne_nil := List.cons_ne_nil _ _
  isDigit_of_mem_whole := List.forall_mem_singleton.2 rfl
  eq_zero_of_head := fun _ => rfl
  isDigit_of_mem_fraction := List.forall_mem_append.2 ⟨isDigit_replicate _, s.isDigit_of_mem⟩

theorem writes_afterPoint (zeros : Nat) :
    s.Writes negative (-zeros) (s.afterPoint negative zeros) := by
  refine ⟨0, ofDigits_eq ?_ ?_⟩
  · have hzero : Nat.ofDigitChars 10 ['0'] 0 = 0 := rfl
    rw [afterPoint, Nat.ofDigitChars_append, hzero, Nat.ofDigitChars_append,
      Nat.ofDigitChars_replicate_zero, Nat.mul_zero, s.ofDigitChars_digits]
  · simp only [afterPoint, List.length_append, List.length_replicate, Option.getD_none]
    omega

/-- The numeral with its point between two digits. -/
def parted {i : Nat} (hi : 0 < i) : Numeral where
  negative := negative
  whole := s.digits.take i
  fraction := s.digits.drop i
  exponent := none
  whole_ne_nil := by
    simp [List.take_eq_nil_iff, s.digits_ne_nil, Nat.ne_of_gt hi]
  isDigit_of_mem_whole := fun c hc => s.isDigit_of_mem c (List.mem_of_mem_take hc)
  eq_zero_of_head := by
    intro h
    rw [List.head?_take, if_neg (Nat.ne_of_gt hi)] at h
    exact absurd h s.head_ne_zero
  isDigit_of_mem_fraction := fun c hc => s.isDigit_of_mem c (List.mem_of_mem_drop hc)

theorem writes_parted {i : Nat} (hi : 0 < i) (hlength : i < s.digits.length) :
    s.Writes negative i (s.parted negative hi) := by
  refine ⟨0, ofDigits_eq ?_ ?_⟩
  · rw [parted, List.take_append_drop, s.ofDigitChars_digits]
  · simp only [parted, List.length_drop, Option.getD_none]
    omega

/-- The numeral with its point after the digits and zeros. -/
def beforePoint (zeros : Nat) : Numeral where
  negative := negative
  whole := s.digits ++ List.replicate zeros '0'
  fraction := ['0']
  exponent := none
  whole_ne_nil := by simp [s.digits_ne_nil]
  isDigit_of_mem_whole := List.forall_mem_append.2 ⟨s.isDigit_of_mem, isDigit_replicate _⟩
  eq_zero_of_head := by
    intro h
    obtain ⟨c, cs, hdigits⟩ := List.exists_cons_of_ne_nil s.digits_ne_nil
    have hhead := s.head_ne_zero
    rw [hdigits] at h hhead
    exact absurd h hhead
  isDigit_of_mem_fraction := List.forall_mem_singleton.2 rfl

theorem writes_beforePoint (zeros : Nat) :
    s.Writes negative (s.digits.length + zeros) (s.beforePoint negative zeros) := by
  refine ⟨zeros + 1, ofDigits_eq ?_ ?_⟩
  · have hzero : Nat.ofDigitChars 10 ['0'] (10 ^ zeros * s.value) =
        s.value * 10 ^ (zeros + 1) := by
      rw [Nat.pow_succ, ← Nat.mul_assoc, Nat.mul_comm s.value, Nat.mul_comm _ 10]
      rfl
    rw [beforePoint, Nat.ofDigitChars_append, Nat.ofDigitChars_append,
      Nat.ofDigitChars_replicate_zero]
    exact hzero
  · simp only [beforePoint, List.length_singleton, Option.getD_none]
    omega

/-- The numeral with an exponent: its point is after the first digit if there are more. -/
def withExponent (exponent : Int) : Numeral where
  negative := negative
  whole := s.digits.take 1
  fraction := s.digits.drop 1
  exponent := some exponent
  whole_ne_nil := (s.parted negative Nat.one_pos).whole_ne_nil
  isDigit_of_mem_whole := (s.parted negative Nat.one_pos).isDigit_of_mem_whole
  eq_zero_of_head := (s.parted negative Nat.one_pos).eq_zero_of_head
  isDigit_of_mem_fraction := (s.parted negative Nat.one_pos).isDigit_of_mem_fraction

theorem writes_withExponent (exponent : Int) :
    s.Writes negative (exponent + 1) (s.withExponent negative exponent) := by
  refine ⟨0, ofDigits_eq ?_ ?_⟩
  · rw [withExponent, List.take_append_drop, s.ofDigitChars_digits]
  · have hpos : 0 < s.digits.length := List.length_pos_iff.2 s.digits_ne_nil
    simp only [withExponent, List.length_drop, Option.getD_some]
    omega

theorem chars_afterPoint (zeros : Nat) : (s.afterPoint negative zeros).chars =
    (s.afterPoint negative zeros).signChars ++ positional s.digits (-zeros) := by
  have hpoint : -(zeros : Int) ≤ 0 := by omega
  rw [positional, if_pos hpoint, Int.natAbs_neg, Int.natAbs_natCast]
  simp [afterPoint, Numeral.chars, Numeral.tail, Numeral.fractionChars, Numeral.exponentChars,
    s.digits_ne_nil]

theorem chars_parted {i : Nat} (hi : 0 < i) (hlength : i < s.digits.length) :
    (s.parted negative hi).chars =
      (s.parted negative hi).signChars ++ positional s.digits i := by
  have hpoint : ¬ (i : Int) ≤ 0 := by omega
  have htake : min i s.digits.length = i := by omega
  have hne : s.digits.drop i ≠ [] := by simpa [List.drop_eq_nil_iff] using hlength
  rw [positional, if_neg hpoint, Int.toNat_natCast]
  simp [parted, Numeral.chars, Numeral.tail, Numeral.fractionChars, Numeral.exponentChars, htake,
    hne]

theorem chars_beforePoint (zeros : Nat) : (s.beforePoint negative zeros).chars =
    (s.beforePoint negative zeros).signChars ++
      positional s.digits (s.digits.length + zeros) := by
  have hlength : 0 < s.digits.length := List.length_pos_iff.2 s.digits_ne_nil
  have hpoint : ¬ (s.digits.length + zeros : Int) ≤ 0 := by omega
  have htoNat : (s.digits.length + zeros : Int).toNat = s.digits.length + zeros := by omega
  rw [positional, if_neg hpoint, htoNat]
  simp [beforePoint, Numeral.chars, Numeral.tail, Numeral.fractionChars, Numeral.exponentChars]

theorem chars_withExponent (exponent : Int) : (s.withExponent negative exponent).chars =
    (s.withExponent negative exponent).signChars ++ scientific true s.digits exponent := by
  have htext : ∀ mantissa : List Char, mantissa ++ Numeral.exponentText exponent =
      mantissa ++ ['e'] ++ (if exponent < 0 then ['-'] else ['+']) ++
        Nat.toDigits 10 exponent.natAbs := by
    intro mantissa
    unfold Numeral.exponentText
    split <;> simp
  obtain ⟨digits, hne, -, -⟩ := s
  match digits, hne with
  | [c], _ => exact congrArg _ (htext [c])
  | c :: d :: cs, _ => exact congrArg _ (htext (c :: '.' :: d :: cs))

theorem exists_positional (point : Int) : ∃ n : Numeral, s.Writes negative point n ∧
    n.chars = (if negative then ['-'] else []) ++ positional s.digits point := by
  by_cases hlow : point ≤ 0
  · obtain ⟨zeros, rfl⟩ : ∃ zeros : Nat, point = -zeros := ⟨point.natAbs, by omega⟩
    exact ⟨_, s.writes_afterPoint negative zeros, s.chars_afterPoint negative zeros⟩
  by_cases hhigh : point < s.digits.length
  · obtain ⟨i, rfl⟩ : ∃ i : Nat, point = i := ⟨point.toNat, by omega⟩
    have hi : 0 < i := by omega
    have hlength : i < s.digits.length := by omega
    exact ⟨_, s.writes_parted negative hi hlength, s.chars_parted negative hi hlength⟩
  · obtain ⟨zeros, rfl⟩ : ∃ zeros : Nat, point = s.digits.length + zeros :=
      ⟨(point - s.digits.length).toNat, by omega⟩
    exact ⟨_, s.writes_beforePoint negative zeros, s.chars_beforePoint negative zeros⟩

theorem exists_scientific (point : Int) : ∃ n : Numeral, s.Writes negative point n ∧
    n.chars = (if negative then ['-'] else []) ++ scientific true s.digits (point - 1) := by
  have hwrites := s.writes_withExponent negative (point - 1)
  rw [Int.sub_add_cancel] at hwrites
  exact ⟨_, hwrites, s.chars_withExponent negative (point - 1)⟩

theorem dropTrailingZeros_append (digits : List Char) :
    (dropTrailingZeros digits).1 ++ List.replicate (dropTrailingZeros digits).2 '0' = digits := by
  obtain ⟨zeros, hzeros⟩ : ∃ zeros, digits.reverse.takeWhile (· = '0') = zeros := ⟨_, rfl⟩
  obtain ⟨kept, hkept⟩ : ∃ kept, digits.reverse.dropWhile (· = '0') = kept := ⟨_, rfl⟩
  have hsplit : digits.reverse = zeros ++ kept := by
    rw [← hzeros, ← hkept, List.takeWhile_append_dropWhile]
  have hall : zeros = List.replicate zeros.length '0' :=
    List.eq_replicate_iff.2 ⟨rfl, fun c hc => by
      rw [← hzeros] at hc
      exact of_decide_eq_true (List.all_eq_true.1 List.all_takeWhile c hc)⟩
  have hdigits : digits = kept.reverse ++ zeros.reverse := by
    rw [← List.reverse_append, ← hsplit, List.reverse_reverse]
  have hlength : digits.length - kept.reverse.length = zeros.length := by
    rw [hdigits, List.length_append, List.length_reverse, List.length_reverse,
      Nat.add_sub_cancel_left]
  rw [dropTrailingZeros, hkept, hlength, ← List.reverse_replicate, ← hall, ← hdigits]

theorem dropTrailingZeros_ne_nil {n : Nat} (h : 0 < n) :
    (dropTrailingZeros (Nat.toDigits 10 n)).1 ≠ [] := by
  intro hnil
  have hsplit := dropTrailingZeros_append (Nat.toDigits 10 n)
  have hhead := Numeral.head_toDigits h
  rw [hnil, List.nil_append] at hsplit
  rw [← hsplit, List.head?_replicate] at hhead
  have hzero : (dropTrailingZeros (Nat.toDigits 10 n)).2 = 0 := by
    by_contra hne
    exact hhead (if_neg hne)
  rw [hzero] at hsplit
  exact Nat.toDigits_ne_nil hsplit.symm

/-- The digits of a positive number without the zeros at their end. -/
def ofNat {n : Nat} (h : 0 < n) : Significand where
  digits := (dropTrailingZeros (Nat.toDigits 10 n)).1
  digits_ne_nil := dropTrailingZeros_ne_nil h
  isDigit_of_mem := fun c hc =>
    Numeral.isDigit_toDigits n c
      (dropTrailingZeros_append (Nat.toDigits 10 n) ▸ List.mem_append_left _ hc)
  head_ne_zero := by
    have hhead := Numeral.head_toDigits h
    obtain ⟨c, cs, hdigits⟩ := List.exists_cons_of_ne_nil (dropTrailingZeros_ne_nil h)
    rw [← dropTrailingZeros_append (Nat.toDigits 10 n), hdigits] at hhead
    rw [hdigits]
    exact hhead

theorem value_ofNat {n : Nat} (h : 0 < n) :
    (ofNat h).value * Nat.pow 10 (dropTrailingZeros (Nat.toDigits 10 n)).2 = n := by
  have hread : Nat.ofDigitChars 10 (Nat.toDigits 10 n) 0 = n := Nat.ofDigitChars_ten_toDigits
  rw [← dropTrailingZeros_append (Nat.toDigits 10 n), Nat.ofDigitChars_append,
    Nat.ofDigitChars_replicate_zero, Nat.mul_comm] at hread
  exact hread

theorem value_pos {n : Nat} (h : 0 < n) : 0 < (ofNat h).value := by
  refine Nat.pos_of_ne_zero fun hzero => Nat.ne_of_gt h ?_
  rw [← value_ofNat h, hzero, Nat.zero_mul]

end Significand

namespace Finite

def zeroNumeral (negative : Bool) : Numeral where
  negative := negative
  whole := ['0']
  fraction := ['0']
  exponent := none
  whole_ne_nil := List.cons_ne_nil _ _
  isDigit_of_mem_whole := List.forall_mem_singleton.2 rfl
  eq_zero_of_head := fun _ => rfl
  isDigit_of_mem_fraction := List.forall_mem_singleton.2 rfl

variable (x : Finite .double)

theorem toBinary_zeroNumeral (h : x.isZero = true) :
    (zeroNumeral x.negative).decimal.toBinary .double = .finite x := by
  have hx : zero .double x.negative = x := by
    obtain ⟨negative, rank⟩ := x
    have hrank : rank.val = 0 := by simpa [isZero] using h
    exact congrArg _ (Fin.ext hrank.symm)
  exact congrArg Binary.finite hx

/-- The text of a number is a numeral to which the number is the nearest one. -/
theorem exists_numeral : ∃ n : Numeral, n.chars = x.chars .json ∧
    n.decimal.toBinary .double = .finite x := by
  by_cases hzero : x.isZero = true
  · refine ⟨zeroNumeral x.negative, ?_, x.toBinary_zeroNumeral hzero⟩
    rw [Finite.chars, if_pos hzero]
    rfl
  have hx : x.isZero = false := Bool.eq_false_iff.2 hzero
  have hscale : FloatFormat.double.fraction ≤ FloatFormat.double.scale := by decide
  have hpos := shortest_pos hscale hx FloatLayout.json.tie
  have hread := toBinary_shortest hscale hx FloatLayout.json.tie
  simp only [Finite.chars, hx, Bool.false_eq_true, if_false]
  generalize x.shortest FloatLayout.json.tie = decimal at hpos hread ⊢
  obtain ⟨s, hs⟩ : ∃ s, Significand.ofNat hpos = s := ⟨_, rfl⟩
  have hdigits : (dropTrailingZeros (Nat.toDigits 10 decimal.1)).1 = s.digits := hs ▸ rfl
  have hcoefficient := Significand.value_ofNat hpos
  have hpositive : 0 < s.value := hs ▸ Significand.value_pos hpos
  rw [hs] at hcoefficient
  rw [hdigits]
  generalize (dropTrailingZeros (Nat.toDigits 10 decimal.1)).2 = zeros at hcoefficient ⊢
  generalize hpoint : (s.digits.length + zeros + decimal.2 : Int) = point
  have hvalue : Decimal.toBinary .double ⟨x.negative, s.value, point - s.digits.length⟩ =
      .finite x := by
    have hexponent : point - s.digits.length - zeros = decimal.2 := by omega
    rw [← Decimal.toBinary_shift _ _ hpositive _ zeros, hcoefficient, hexponent]
    exact hread
  by_cases hplain : FloatLayout.json.leastPlain ≤ point - 1 &&
    point - 1 ≤ FloatLayout.json.mostPlain
  · obtain ⟨n, hwrites, htext⟩ := s.exists_positional x.negative point
    rw [if_pos hplain]
    exact ⟨n, htext, hwrites.toBinary hpositive hvalue⟩
  · obtain ⟨n, hwrites, htext⟩ := s.exists_scientific x.negative point
    rw [if_neg hplain]
    exact ⟨n, htext, hwrites.toBinary hpositive hvalue⟩

end Finite

end FluentQuery
