import FluentQuery.Calendar
import FluentQuery.Proofs.FixedWidth
import FluentQuery.Proofs.Numerals

/-!
The exact texts of date-times. Main statement: every date-time is read back as the one that its text
shows, with its nanoseconds and in whatever year it lies, and that is the date-time itself unless it
is a leap second in the middle of a minute.
-/
namespace FluentQuery

theorem not_isBlank_of_isDigit {c : Char} (h : c.isDigit = true) : Text.isBlank c = false := by
  obtain ⟨hlow, hhigh⟩ := Char.isDigit_iff_toNat.1 h
  have hzero : '0'.toNat = 48 := rfl
  have hnine : '9'.toNat = 57 := rfl
  simp only [Text.isBlank]
  grind

theorem Text.trimFront_padded (width n : Nat) (rest : List Char) :
    trimFront ((padded width n).toList ++ rest) = (padded width n).toList ++ rest := by
  obtain ⟨c, cs, hcs⟩ := List.exists_cons_of_ne_nil (padded_ne_nil width n)
  have hdigit := isDigit_padded width n c (hcs ▸ List.mem_cons_self)
  refine trimFront_eq_self ?_
  rw [hcs]
  rintro d ⟨⟩
  exact not_isBlank_of_isDigit hdigit

namespace DateTime

def Ends (rest : List Char) : Prop := ∀ c ∈ rest.head?, c.isDigit = false

variable {rest : List Char}

theorem ends_nil : Ends [] := fun _ h => nomatch h

theorem ends_cons {c : Char} (h : c.isDigit = false) (rest : List Char) : Ends (c :: rest) :=
  fun _ hd => Option.some.inj hd ▸ h

theorem takeDigits_padded {most width n : Nat} (hlength : (padded width n).toList.length ≤ most)
    (hrest : Ends rest) :
    takeDigits most ((padded width n).toList ++ rest) = some (n, rest) := by
  have hrun := Numeral.takeWhile_digits (isDigit_padded width n) hrest
  have hne := List.isEmpty_eq_false_iff.2 (padded_ne_nil width n)
  simp only [takeDigits, hrun, List.take_of_length_le hlength, hne, Bool.false_eq_true, if_false,
    ofDigitChars_padded, List.drop_left]

theorem takeField_padded {width n : Nat} (hwidth : 0 < width) (h : n < Nat.pow 10 width)
    (hrest : Ends rest) :
    takeField width ((padded width n).toList ++ rest) = some (n, rest) := by
  rw [takeField, Text.trimFront_padded,
    takeDigits_padded (Nat.le_of_eq (length_padded hwidth h)) hrest]

theorem takeMark_cons (mark : Char) (h : Text.isBlank mark = false) (rest : List Char) :
    takeMark mark (mark :: rest) = some rest := by
  have htrim : Text.trimFront (mark :: rest) = [mark] ++ rest :=
    Text.trimFront_eq_self fun _ hd => Option.some.inj hd ▸ h
  rw [takeMark, htrim, Text.afterLead_append]

theorem takeYear_padded {n : Nat} (h : n < 10000) (hrest : Ends rest) :
    takeYear ((padded 4 n).toList ++ rest) = some ((n : Int), rest) := by
  have hlength : (padded 4 n).toList.length ≤ 4 := Nat.le_of_eq (length_padded (by decide) h)
  have htake := takeDigits_padded hlength hrest
  obtain ⟨c, cs, hcs⟩ := List.exists_cons_of_ne_nil (padded_ne_nil 4 n)
  have hdigit := isDigit_padded 4 n c (hcs ▸ List.mem_cons_self)
  rw [takeYear, Text.trimFront_padded]
  split
  · next hminus =>
    rw [hcs] at hminus
    obtain ⟨rfl, -⟩ := List.cons.inj hminus
    cases hdigit
  · next hplus =>
    rw [hcs] at hplus
    obtain ⟨rfl, -⟩ := List.cons.inj hplus
    cases hdigit
  · rw [htake]
    rfl

theorem takeYear_signed (negative : Prop) [Decidable negative] (cs : List Char) :
    takeYear ((if negative then '-' else '+') :: cs) = (takeDigits cs.length cs).map
      fun (n, rest) => (if negative then -(n : Int) else (n : Int), rest) := by
  by_cases h : negative
  · simp only [if_pos h]
    rfl
  · simp only [if_neg h]
    rfl

theorem takeYear_yearText (year : Int) (hrest : Ends rest) :
    takeYear ((yearText year).toList ++ rest) = some (year, rest) := by
  by_cases hplain : 0 ≤ year ∧ year ≤ 9999
  · have hvalue : (year.natAbs : Int) = year := Int.natAbs_of_nonneg hplain.1
    rw [yearText, if_pos hplain, takeYear_padded (by omega) hrest, hvalue]
  · have htext : (yearText year).toList =
        (if year < 0 then '-' else '+') :: (padded 4 year.natAbs).toList := by
      by_cases hsign : year < 0 <;> simp [yearText, hplain, hsign]
    have hdigits := @takeDigits_padded rest ((padded 4 year.natAbs).toList ++ rest).length 4
      year.natAbs (by simp) hrest
    have hvalue : (if year < 0 then -(year.natAbs : Int) else year.natAbs) = year := by
      split <;> omega
    rw [htext, List.cons_append, takeYear_signed, hdigits]
    exact congrArg (fun value => some (value, rest)) hvalue

theorem takeFraction_padded {width n : Nat} (hwidth : 0 < width) (hnine : width ≤ 9)
    (h : n < Nat.pow 10 width) :
    takeFraction ('.' :: (padded width n).toList) = some (n * Nat.pow 10 (9 - width), []) := by
  have hrun := Numeral.takeWhile_digits (isDigit_padded width n) ends_nil
  have hne := List.isEmpty_eq_false_iff.2 (padded_ne_nil width n)
  have hlength := length_padded hwidth h
  have hrest : (padded width n).toList.drop width = [] :=
    List.drop_eq_nil_of_le (Nat.le_of_eq hlength)
  rw [List.append_nil] at hrun
  have hnanos : Nat.ofDigitChars 10 ((padded width n).toList ++
      List.replicate (9 - width) '0') 0 = n * Nat.pow 10 (9 - width) := by
    rw [Nat.ofDigitChars_append, ofDigitChars_padded, Nat.ofDigitChars_replicate_zero, Nat.mul_comm,
      Nat.pow_eq]
  have hall : ((padded width n).toList ++ List.replicate (9 - width) '0').take 9 =
      (padded width n).toList ++ List.replicate (9 - width) '0' := by
    refine List.take_of_length_le ?_
    rw [List.length_append, hlength, List.length_replicate]
    omega
  simp only [takeFraction, hrun, hne, Bool.false_eq_true, if_false, hlength, hall, hnanos, hrest]

theorem takeFraction_div {width nano : Nat} (hwidth : 0 < width) (hnine : width ≤ 9)
    (hnano : nano < 1000000000) (hzero : nano % Nat.pow 10 (9 - width) = 0) :
    takeFraction ("." ++ padded width (nano / Nat.pow 10 (9 - width))).toList =
      some (nano, []) := by
  have hunit : Nat.pow 10 (9 - width) * Nat.pow 10 width = 1000000000 := by
    rw [Nat.pow_eq, Nat.pow_eq, ← Nat.pow_add, Nat.sub_add_cancel hnine]
  have hbound : nano / Nat.pow 10 (9 - width) < Nat.pow 10 width := by
    rw [← hunit] at hnano
    exact Nat.div_lt_of_lt_mul hnano
  have hvalue := Nat.div_mul_cancel (Nat.dvd_of_mod_eq_zero hzero)
  have hread := takeFraction_padded hwidth hnine hbound
  rw [hvalue] at hread
  rw [String.toList_append]
  exact hread

theorem takeFraction_fractionText (t : DateTime) :
    takeFraction t.fractionText.toList = some (t.nano % 1000000000, []) := by
  have hnano : t.nano % 1000000000 < 1000000000 := Nat.mod_lt _ (by decide)
  rw [fractionText]
  generalize t.nano % 1000000000 = nano at hnano ⊢
  split
  · next hzero =>
    rw [hzero]
    rfl
  split
  · next hmilli => exact @takeFraction_div 3 nano (by decide) (by decide) hnano hmilli
  split
  · next hmicro => exact @takeFraction_div 6 nano (by decide) (by decide) hnano hmicro
  · have hread := @takeFraction_div 9 nano (by decide) (by decide) hnano (Nat.mod_one nano)
    have hwhole : nano / Nat.pow 10 (9 - 9) = nano := Nat.div_one nano
    rwa [hwhole] at hread

theorem ends_fractionText (t : DateTime) : Ends t.fractionText.toList := by
  have hpoint : ∀ s : String, Ends ("." ++ s).toList := fun s => by
    rw [String.toList_append]
    exact ends_cons (c := '.') rfl s.toList
  rw [fractionText]
  split
  · exact ends_nil
  split
  · exact hpoint _
  split <;> exact hpoint _

theorem of?_self {t : DateTime} (h : t.LeapShowsSixty) :
    of? t.year t.month t.day t.hour t.minute t.second t.nano = some t := by
  rw [of?, dif_pos t.valid, if_neg fun hleap => hleap.2 (h.second_eq hleap.1)]

theorem valid_shown (t : DateTime) (h : ¬ t.LeapShowsSixty) :
    Valid t.year t.month t.day t.hour t.minute t.shownSecond (t.nano % 1000000000) := by
  obtain ⟨hfirst, hlast, hday, hmonth, hhour, hminute, hsecond, hnano⟩ := t.valid
  have hshown : ¬ (1000000000 ≤ t.nano → t.second + t.nano / 1000000000 = 60) := h
  refine ⟨hfirst, hlast, hday, hmonth, hhour, hminute, ?_, ?_⟩
  · rw [shownSecond]
    omega
  · omega

/-- The date-time that the text shows. A leap second in the middle of a minute is shown as the
second after it. -/
def asShown (t : DateTime) : DateTime :=
  if h : t.LeapShowsSixty then t
  else ⟨t.year, t.month, t.day, t.hour, t.minute, t.shownSecond, t.nano % 1000000000,
    t.valid_shown h⟩

theorem asShown_eq_self_iff {t : DateTime} : t.asShown = t ↔ t.LeapShowsSixty := by
  by_cases h : t.LeapShowsSixty
  · exact iff_of_true (dif_pos h) h
  · have hnano : 1000000000 ≤ t.nano := Decidable.byContradiction fun hn => h fun hle => absurd hle hn
    refine iff_of_false (fun heq => ?_) h
    have hmod : t.nano % 1000000000 = t.nano := by
      rw [asShown, dif_neg h] at heq
      exact congrArg nano heq
    omega

/-- The second and the nanoseconds that a text shows are those of the date-time that it shows. -/
theorem of?_shown (t : DateTime) :
    (if t.shownSecond = 60 then
        of? t.year t.month t.day t.hour t.minute 59 (t.nano % 1000000000 + 1000000000)
      else of? t.year t.month t.day t.hour t.minute t.shownSecond (t.nano % 1000000000)) =
      some t.asShown := by
  obtain ⟨-, -, -, -, -, -, hsecond, hnano⟩ := t.valid
  by_cases hsixty : t.LeapShowsSixty
  · rw [asShown, dif_pos hsixty]
    by_cases h : 1000000000 ≤ t.nano
    · have hnanos : t.nano % 1000000000 + 1000000000 = t.nano := by omega
      rw [if_pos (hsixty h), hnanos, ← hsixty.second_eq h, of?_self hsixty]
    · have hshown : t.shownSecond = t.second := by
        rw [shownSecond]
        omega
      rw [hshown, if_neg (Nat.ne_of_lt hsecond), Nat.mod_eq_of_lt (Nat.not_le.1 h),
        of?_self hsixty]
  · have hbelow : t.shownSecond ≠ 60 := fun hshown => hsixty fun _ => hshown
    have hplain : ¬ (1000000000 ≤ t.nano % 1000000000 ∧ t.shownSecond ≠ 59) := by omega
    rw [if_neg hbelow, asShown, dif_neg hsixty, of?, dif_pos (t.valid_shown hsixty),
      if_neg hplain]

theorem toList_isoText (t : DateTime) :
    t.isoText.toList = (yearText t.year).toList ++ '-' :: ((padded 2 t.month).toList ++
      '-' :: ((padded 2 t.day).toList ++ 'T' :: ((padded 2 t.hour).toList ++
      ':' :: ((padded 2 t.minute).toList ++ ':' :: ((padded 2 t.shownSecond).toList ++
      t.fractionText.toList))))) := by
  simp [isoText, dateText, clockText]

/-- From its exact text a date-time is read back as the text shows it. -/
theorem ofText?_isoText (t : DateTime) : ofText? t.isoText = some t.asShown := by
  obtain ⟨hmonth, hday, hhour, hminute, hsecond⟩ := t.fields_lt
  have hfield : ∀ {n : Nat} {rest : List Char}, n < 100 → Ends rest →
      takeField 2 ((padded 2 n).toList ++ rest) = some (n, rest) :=
    fun h => takeField_padded (by decide) h
  have hdash : ∀ rest, Ends ('-' :: rest) := ends_cons rfl
  have hletter : ∀ rest, Ends ('T' :: rest) := ends_cons rfl
  have hcolon : ∀ rest, Ends (':' :: rest) := ends_cons rfl
  rw [ofText?, toList_isoText]
  simp only [takeYear_yearText _ (hdash _), takeMark_cons '-' rfl, hfield hmonth (hdash _),
    hfield hday (hletter _), takeMark_cons 'T' rfl, hfield hhour (hcolon _), takeMark_cons ':' rfl,
    hfield hminute (hcolon _), hfield hsecond t.ends_fractionText, takeFraction_fractionText,
    Option.bind_eq_bind, Option.bind_some]
  exact t.of?_shown

end DateTime

end FluentQuery
