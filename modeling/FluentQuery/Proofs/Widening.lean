import FluentQuery.Proofs.Rounding

/-!
Formats that have all numbers of another one. Main statement: a finite number that is converted to
a wider format is finite there, and converted back it is the number itself.
-/
namespace FluentQuery

namespace FloatFormat

/-- The second format has the numbers of the first one, the subnormal ones as normal numbers. -/
structure Widens (f g : FloatFormat) : Prop where
  scale_le : f.scale ≤ g.scale
  fraction_le : f.fraction ≤ g.fraction
  fraction_le_gap : g.fraction ≤ g.scale - f.scale
  reach : f.binades + (g.scale - f.scale) + f.fraction + 1 ≤ g.fraction + g.binades

theorem single_widens_double : Widens single double := by
  constructor <;> decide

/-- A magnitude is a significand times a power of two. -/
theorem exists_significand (f : FloatFormat) (rank : Fin f.count) :
    ∃ significand shift, f.units rank = significand * Nat.pow 2 shift ∧
      significand < 2 * Nat.pow 2 f.fraction ∧ shift ≤ f.binades := by
  have hpos : 0 < Nat.pow 2 f.fraction := Nat.two_pow_pos _
  obtain ⟨rank, hrank⟩ := rank
  simp only [units]
  split
  · exact ⟨rank, 0, (Nat.mul_one _).symm, by omega, Nat.zero_le _⟩
  · have hbinade : rank / Nat.pow 2 f.fraction < f.binades + 1 :=
      (Nat.div_lt_iff_lt_mul hpos).2 hrank
    have hrest := Nat.mod_lt rank hpos
    exact ⟨_, _, rfl, by omega, by omega⟩

/-- The format has a significand of its width at every place in its range. -/
theorem exists_rank (f : FloatFormat) {significand shift : Nat} (hpos : 0 < significand)
    (hbits : significand.log2 ≤ f.fraction) (hlow : f.fraction ≤ shift + significand.log2)
    (hreach : shift + significand.log2 + 1 ≤ f.fraction + f.binades) :
    ∃ rank : Fin f.count, f.units rank = significand * Nat.pow 2 shift := by
  have hne : significand ≠ 0 := Nat.ne_of_gt hpos
  obtain ⟨spare, hspare⟩ := Nat.exists_eq_add_of_le hbits
  obtain ⟨rest, rfl⟩ : ∃ rest, shift = spare + rest := ⟨shift - spare, by omega⟩
  have hfirst : Nat.pow 2 significand.log2 ≤ significand := Nat.log2_self_le hne
  have hlast : significand < 2 * Nat.pow 2 significand.log2 := by
    have hlt := @Nat.lt_log2_self significand
    rwa [Nat.pow_succ'] at hlt
  have hbinade : Nat.pow 2 f.fraction = Nat.pow 2 significand.log2 * Nat.pow 2 spare := by
    rw [hspare]
    exact Nat.pow_add _ _ _
  have hleast : Nat.pow 2 f.fraction ≤ significand * Nat.pow 2 spare := by
    rw [hbinade]
    exact Nat.mul_le_mul_right _ hfirst
  have hmost : significand * Nat.pow 2 spare < 2 * Nat.pow 2 f.fraction := by
    rw [hbinade, ← Nat.mul_assoc]
    exact Nat.mul_lt_mul_of_pos_right hlast (Nat.two_pow_pos spare)
  have hcount : rest * Nat.pow 2 f.fraction + significand * Nat.pow 2 spare < f.count := by
    calc rest * Nat.pow 2 f.fraction + significand * Nat.pow 2 spare
        < (rest + 2) * Nat.pow 2 f.fraction := by
          rw [Nat.add_mul]
          omega
      _ ≤ f.count := Nat.mul_le_mul_right _ (by omega)
  refine ⟨⟨_, hcount⟩, ?_⟩
  have hshift : Nat.pow 2 (spare + rest) = Nat.pow 2 spare * Nat.pow 2 rest := Nat.pow_add _ _ _
  rw [units_binade f hleast (Nat.le_of_lt hmost), hshift, Nat.mul_assoc]

variable {f g : FloatFormat}

theorem Widens.exists_rank (h : Widens f g) (rank : Fin f.count) :
    ∃ wide : Fin g.count, g.units wide = f.units rank * Nat.pow 2 (g.scale - f.scale) := by
  obtain ⟨hscale, hfraction, hgap, hreach⟩ := h
  obtain ⟨significand, shift, hunits, hbits, hshift⟩ := f.exists_significand rank
  rcases Nat.eq_zero_or_pos significand with rfl | hpos
  · refine ⟨⟨0, g.count_pos⟩, ?_⟩
    rw [hunits, Nat.zero_mul, Nat.zero_mul]
    exact if_pos (Nat.two_pow_pos _)
  · have hlog : significand.log2 ≤ f.fraction := by
      refine Nat.le_of_lt_succ ((Nat.log2_lt (Nat.ne_of_gt hpos)).2 ?_)
      rwa [Nat.pow_succ']
    have hplace : Nat.pow 2 (shift + (g.scale - f.scale)) =
        Nat.pow 2 shift * Nat.pow 2 (g.scale - f.scale) := Nat.pow_add _ _ _
    rw [hunits, Nat.mul_assoc, ← hplace]
    exact g.exists_rank hpos (by omega) (by omega) (by omega)

end FloatFormat

namespace Binary

variable {f g : FloatFormat}

/-- A finite number is kept by a wider format, and found again from it. -/
theorem convert_of_widens (h : f.Widens g) (x : Finite f) :
    ∃ y : Finite g, convert g (.finite x) = .finite y ∧ convert f (.finite y) = .finite x := by
  obtain ⟨wide, hwide⟩ := h.exists_rank x.rank
  have hscale : Nat.pow 2 g.scale = Nat.pow 2 (g.scale - f.scale) * Nat.pow 2 f.scale := by
    rw [← Nat.sub_add_cancel h.scale_le, Nat.add_sub_cancel]
    exact Nat.pow_add _ _ _
  have hpow : ∀ n, 0 < Nat.pow 2 n := Nat.two_pow_pos
  have hvalue : x.units * Nat.pow 2 g.scale =
      (⟨x.negative, wide⟩ : Finite g).units * Nat.pow 2 f.scale := by
    rw [Finite.units, Finite.units, hwide, hscale, Nat.mul_assoc]
  refine ⟨⟨x.negative, wide⟩, ?_, ?_⟩
  · rw [convert, ofFraction_congr g x.negative (hpow _) (hpow _) hvalue]
    exact ofFraction_units g ⟨x.negative, wide⟩
  · rw [convert, ofFraction_congr f x.negative (hpow _) (hpow _) hvalue.symm]
    exact ofFraction_units f x

end Binary

end FluentQuery
