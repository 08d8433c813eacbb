import FluentQuery.Json.Number
import FluentQuery.Number.Integer
import Mathlib.Data.List.TakeDrop

/-!
Numerals in JSON texts. Main statements: a numeral is read as the number that it stands for, in
front of whatever may follow a numeral; the text of an integer is a numeral of that integer.
-/
namespace FluentQuery

/-- A numeral: digits without a zero in front of others, a fraction after a point unless it is
empty, and perhaps an exponent. -/
structure Numeral where
  negative : Bool
  whole : List Char
  fraction : List Char
  exponent : Option Int
  whole_ne_nil : whole ≠ []
  isDigit_of_mem_whole : ∀ c ∈ whole, c.isDigit = true
  eq_zero_of_head : whole.head? = some '0' → whole = ['0']
  isDigit_of_mem_fraction : ∀ c ∈ fraction, c.isDigit = true

namespace Numeral

def signChars (n : Numeral) : List Char := if n.negative then ['-'] else []

def fractionChars (n : Numeral) : List Char :=
  if n.fraction = [] then [] else '.' :: n.fraction

def exponentText (exponent : Int) : List Char :=
  'e' :: (if exponent < 0 then '-' else '+') :: Nat.toDigits 10 exponent.natAbs

def exponentChars (n : Numeral) : List Char := n.exponent.elim [] exponentText

def tail (n : Numeral) : List Char := n.fractionChars ++ n.exponentChars

def chars (n : Numeral) : List Char := n.signChars ++ (n.whole ++ n.tail)

def decimal (n : Numeral) : Decimal :=
  .ofDigits n.negative n.whole n.fraction (n.exponent.getD 0)

def Ends (rest : List Char) : Prop :=
  ∀ c ∈ rest.head?, c.isDigit = false ∧ c ≠ '.' ∧ c ≠ 'e' ∧ c ≠ 'E'

theorem ends_nil : Ends [] := fun _ h => nomatch h

theorem ends_cons {c : Char} (h : c.isDigit = false ∧ c ≠ '.' ∧ c ≠ 'e' ∧ c ≠ 'E')
    (rest : List Char) : Ends (c :: rest) := fun _ hd => Option.some.inj hd ▸ h

/-! The parts of a numeral in front of what follows them. -/

section Digits

variable {run rest : List Char}

theorem takeWhile_digits (hrun : ∀ c ∈ run, c.isDigit = true)
    (hrest : ∀ c ∈ rest.head?, c.isDigit = false) :
    (run ++ rest).takeWhile Char.isDigit = run := by
  have hnil : rest.takeWhile Char.isDigit = [] := by
    cases rest with
    | nil => rfl
    | cons c rest => simp [hrest c rfl]
  rw [List.takeWhile_append_of_pos hrun, hnil, List.append_nil]

theorem dropWhile_digits (hrun : ∀ c ∈ run, c.isDigit = true)
    (hrest : ∀ c ∈ rest.head?, c.isDigit = false) :
    (run ++ rest).dropWhile Char.isDigit = rest := by
  have hsplit := List.takeWhile_append_dropWhile (p := Char.isDigit) (l := run ++ rest)
  rw [takeWhile_digits hrun hrest] at hsplit
  exact List.append_cancel_left hsplit

end Digits

theorem isDigit_toDigits (n : Nat) : ∀ c ∈ Nat.toDigits 10 n, c.isDigit = true := fun _ hc =>
  Nat.isDigit_of_mem_toDigits (by decide) (by decide) hc

theorem takeExponent_eq_none {rest : List Char} (h : ∀ c ∈ rest.head?, c ≠ 'e' ∧ c ≠ 'E') :
    Decimal.takeExponent rest = none := by
  cases rest with
  | nil => rfl
  | cons c rest => simp [Decimal.takeExponent, h c rfl]

theorem takeExponent_exponentText (exponent : Int) {rest : List Char}
    (h : ∀ c ∈ rest.head?, c.isDigit = false) :
    Decimal.takeExponent (exponentText exponent ++ rest) = some (exponent, rest) := by
  obtain ⟨n, hn⟩ : ∃ n, exponent.natAbs = n := ⟨_, rfl⟩
  have htake := takeWhile_digits (isDigit_toDigits n) h
  have hdrop := dropWhile_digits (isDigit_toDigits n) h
  rw [exponentText, hn]
  by_cases hsign : exponent < 0
  · have hvalue : -(n : Int) = exponent := by omega
    simp [Decimal.takeExponent, Decimal.takeSign, hsign, htake, hdrop, hvalue]
  · have hvalue : (n : Int) = exponent := by omega
    simp [Decimal.takeExponent, Decimal.takeSign, hsign, htake, hdrop, hvalue]

variable (n : Numeral) {rest : List Char}

theorem takeExponent_exponentChars (h : Ends rest) :
    Decimal.takeExponent (n.exponentChars ++ rest) = n.exponent.map (·, rest) := by
  unfold exponentChars
  cases n.exponent with
  | none => exact takeExponent_eq_none fun c hc => (h c hc).2.2
  | some exponent => exact takeExponent_exponentText exponent fun c hc => (h c hc).1

theorem head_exponentChars (h : Ends rest) :
    ∀ c ∈ (n.exponentChars ++ rest).head?, c.isDigit = false ∧ c ≠ '.' := by
  unfold exponentChars
  cases n.exponent with
  | none => exact fun c hc => ⟨(h c hc).1, (h c hc).2.1⟩
  | some exponent =>
    intro c hc
    obtain rfl : 'e' = c := Option.some.inj hc
    exact ⟨rfl, by decide⟩

theorem head_tail (h : Ends rest) : ∀ c ∈ (n.tail ++ rest).head?, c.isDigit = false := by
  intro c hc
  rw [tail, fractionChars] at hc
  split at hc
  · rw [List.nil_append] at hc
    exact (n.head_exponentChars h c hc).1
  · obtain rfl : '.' = c := Option.some.inj hc
    rfl

theorem exists_whole_eq_cons : ∃ c cs, n.whole = c :: cs ∧ c ≠ '-' := by
  obtain ⟨c, cs, hwhole⟩ := List.exists_cons_of_ne_nil n.whole_ne_nil
  have hdigit : c.isDigit = true := n.isDigit_of_mem_whole c (hwhole ▸ List.mem_cons_self)
  refine ⟨c, cs, hwhole, ?_⟩
  rintro rfl
  cases hdigit

/-! Numerals in JSON texts. -/

theorem fractionPart_tail (h : Ends rest) :
    Json.fractionPart (n.tail ++ rest) = n.fractionChars := by
  have hhead := n.head_exponentChars h
  rw [tail, fractionChars]
  by_cases hfraction : n.fraction = []
  · rw [if_pos hfraction, List.nil_append]
    generalize n.exponentChars ++ rest = cs at hhead ⊢
    cases cs with
    | nil => rfl
    | cons c cs => simp [Json.fractionPart, (hhead c rfl).2]
  · have hdigits := takeWhile_digits n.isDigit_of_mem_fraction fun c hc => (hhead c hc).1
    rw [if_neg hfraction, List.cons_append, List.cons_append, List.append_assoc]
    simp [Json.fractionPart, hdigits, hfraction]

theorem numberTail_tail (h : Ends rest) : Json.numberTail (n.tail ++ rest) = n.tail := by
  have hdrop : (n.tail ++ rest).drop n.fractionChars.length = n.exponentChars ++ rest := by
    rw [tail, List.append_assoc, List.drop_left]
  simp only [Json.numberTail, n.fractionPart_tail h, hdrop, n.takeExponent_exponentChars h]
  rw [tail, exponentChars]
  cases n.exponent with
  | none => exact (List.append_nil _).symm
  | some exponent =>
    simp only [Option.map_some, List.length_append, Nat.add_sub_cancel, List.take_left,
      Option.elim_some]

theorem splitMinus_append (rest : List Char) :
    Json.splitMinus (n.signChars ++ (n.whole ++ rest)) = (n.signChars, n.whole ++ rest) := by
  unfold signChars
  cases n.negative with
  | true => rfl
  | false =>
    obtain ⟨c, cs, hwhole, hminus⟩ := n.exists_whole_eq_cons
    simp [hwhole, Json.splitMinus, hminus]

theorem wholePart_append (h : ∀ c ∈ rest.head?, c.isDigit = false) :
    Json.wholePart (n.whole ++ rest) = n.whole := by
  obtain ⟨c, cs, hwhole, -⟩ := n.exists_whole_eq_cons
  have htake := takeWhile_digits n.isDigit_of_mem_whole h
  by_cases hc : c = '0'
  · have hzero : n.whole = ['0'] := n.eq_zero_of_head (by rw [hwhole, hc]; rfl)
    rw [hzero]
    rfl
  · rw [hwhole, List.cons_append] at htake ⊢
    simpa [Json.wholePart, hc] using htake

def value? (n : Numeral) : Option Json :=
  (Json.exactNumber? n.signChars n.whole n.tail).or
    ((Json.approximate? n.signChars n.whole n.tail).map .float)

theorem number?_append (h : Ends rest) :
    Json.number? (n.chars ++ rest) = n.value?.map (·, n.chars.length) := by
  have hne : n.whole.isEmpty = false := by simp [n.whole_ne_nil]
  have hsign := n.splitMinus_append (n.tail ++ rest)
  have hwhole := n.wholePart_append (n.head_tail h)
  have hdrop : (n.whole ++ (n.tail ++ rest)).drop n.whole.length = n.tail ++ rest :=
    List.drop_left
  have htail := n.numberTail_tail h
  rw [value?, chars, List.append_assoc, List.append_assoc]
  simp only [Json.number?, hsign, hwhole, hdrop, htail, hne, Bool.false_eq_true, if_false,
    List.length_append, ← Nat.add_assoc]
  cases Json.exactNumber? n.signChars n.whole n.tail with
  | some j => rfl
  | none =>
    rw [Option.none_or, Option.map_map]
    rfl

/-- A numeral that is read alone is read in front of whatever may follow it. -/
theorem value?_of_number? {j : Json} {length : Nat} (h : Json.number? n.chars = some (j, length)) :
    n.value? = some j := by
  have hread := n.number?_append ends_nil
  rw [List.append_nil, h] at hread
  obtain ⟨value, hvalue, hpair⟩ := Option.map_eq_some_iff.1 hread.symm
  cases hpair
  exact hvalue

/-! The texts of integers are numerals. -/

theorem head_toDigits {n : Nat} (h : 0 < n) : (Nat.toDigits 10 n).head? ≠ some '0' := by
  induction n using Nat.strongRecOn with
  | ind n ih =>
    rw [Nat.toDigits_eq_if (by decide)]
    split
    · intro hzero
      exact Nat.ne_of_gt h (Nat.digitChar_eq_zero.1 (Option.some.inj hzero))
    · have hfirst := ih (n / 10) (by omega) (by omega)
      obtain ⟨c, cs, hcs⟩ := List.exists_cons_of_ne_nil (@Nat.toDigits_ne_nil (n / 10) 10)
      rw [hcs] at hfirst ⊢
      exact hfirst

def ofInteger (n : Int) : Numeral where
  negative := decide (n < 0)
  whole := Nat.toDigits 10 n.natAbs
  fraction := []
  exponent := none
  whole_ne_nil := Nat.toDigits_ne_nil
  isDigit_of_mem_whole := isDigit_toDigits _
  eq_zero_of_head := by
    intro h
    by_cases hzero : n.natAbs = 0
    · rw [hzero, Nat.toDigits_zero]
    · exact absurd h (head_toDigits (Nat.pos_of_ne_zero hzero))
  isDigit_of_mem_fraction := fun _ h => nomatch h

theorem chars_ofInteger (n : Int) : (ofInteger n).chars = integerChars n := by
  by_cases h : n < 0 <;>
    simp [ofInteger, chars, signChars, tail, fractionChars, exponentChars, integerChars, h]

theorem value?_ofInteger (n : JsonInteger) : (ofInteger n.val).value? = some (.int n) := by
  obtain ⟨n, hn⟩ := n
  obtain ⟨m, hm⟩ : ∃ m, n.natAbs = m := ⟨_, rfl⟩
  have hread : Nat.ofDigitChars 10 (ofInteger n).whole 0 = m :=
    Nat.ofDigitChars_ten_toDigits.trans hm
  have htail : (ofInteger n).tail = [] := rfl
  have hexact : Json.exactNumber? (ofInteger n).signChars (ofInteger n).whole (ofInteger n).tail =
      some (.int ⟨n, hn⟩) := by
    rw [Json.exactNumber?, hread, htail, signChars]
    by_cases hsign : n < 0
    · have hvalue : -(m : Int) = n := by omega
      have hne : m ≠ 0 := by omega
      simp [ofInteger, hsign, hne, hvalue, Json.integer?, hn]
    · have hvalue : (m : Int) = n := by omega
      simp [ofInteger, hsign, hvalue, Json.integer?, hn]
  rw [value?, hexact]
  rfl

end Numeral

end FluentQuery
