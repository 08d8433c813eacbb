import FluentQuery.Number.Decimal

/-!
Rounding to the numbers of a format. Main statements: rounding gives back every number that the
format has, and it depends on a fraction's value only; an integer with more bits than a significand
is rounded to a multiple of the power of two that the surplus bits make.
-/
namespace FluentQuery

namespace FloatFormat

theorem divNearest_mul (n : Nat) {den : Nat} (h : 0 < den) : divNearest (n * den) den = n := by
  simp [divNearest, Nat.mul_div_cancel n h, h]

/-- The first bit of a number of so many units. -/
theorem log2_units {binade r shift fraction : Nat} (hb : binade = Nat.pow 2 fraction)
    (hr : r < binade) : ((binade + r) * Nat.pow 2 shift).log2 = fraction + shift := by
  rw [Nat.pow_eq] at hb ⊢
  have hpos : 0 < 2 ^ shift := Nat.two_pow_pos shift
  have hbinade : 0 < binade := hb ▸ Nat.two_pow_pos fraction
  have hne : (binade + r) * 2 ^ shift ≠ 0 := Nat.mul_ne_zero (by omega) (by omega)
  refine (Nat.log2_eq_iff hne).2 ⟨?_, ?_⟩
  · rw [Nat.pow_add, ← hb]
    exact Nat.mul_le_mul_right _ (Nat.le_add_right _ _)
  · have hsplit : 2 ^ (fraction + shift + 1) = 2 * binade * 2 ^ shift := by
      rw [hb, Nat.pow_succ, Nat.pow_add, Nat.mul_comm, Nat.mul_assoc]
    rw [hsplit]
    exact Nat.mul_lt_mul_of_pos_right (by omega) hpos

/-- Rounding gives back every magnitude of the format. -/
theorem nearestRank_units (f : FloatFormat) (rank : Nat) :
    f.nearestRank (f.units rank) 1 = rank := by
  obtain ⟨binade, hb⟩ : ∃ binade, binade = Nat.pow 2 f.fraction := ⟨_, rfl⟩
  have hbinade : 0 < binade := by
    rw [hb]
    exact Nat.two_pow_pos _
  simp only [nearestRank, units, ← hb, Nat.div_one, Nat.one_mul]
  split
  · next hsmall =>
    have hshift : rank.log2 - f.fraction = 0 := by
      by_cases hzero : rank = 0
      · simp [hzero]
      · have hlog := (Nat.log2_lt hzero).2 (Nat.lt_of_lt_of_eq hsmall hb)
        omega
    have hnearest := divNearest_mul rank (Nat.two_pow_pos 0)
    rw [Nat.pow_zero, Nat.mul_one] at hnearest
    rw [hshift, Nat.zero_mul, Nat.zero_add]
    exact hnearest
  · next hlarge =>
    obtain ⟨quotient, hq⟩ : ∃ q, rank / binade = q + 1 :=
      Nat.exists_eq_add_one.2 (Nat.div_pos (by omega) hbinade)
    have hsum := Nat.div_add_mod rank binade
    have hlog := @log2_units binade (rank % binade) quotient f.fraction hb (Nat.mod_lt _ hbinade)
    have hshift : f.fraction + quotient - f.fraction = quotient := by omega
    have hpos : 0 < Nat.pow 2 quotient := Nat.two_pow_pos _
    rw [hq] at hsum ⊢
    rw [Nat.add_sub_cancel, hlog, hshift, divNearest_mul _ hpos]
    rw [Nat.mul_add, Nat.mul_one, Nat.mul_comm] at hsum
    omega

theorem divNearest_mul_mul (num den : Nat) {m : Nat} (h : 0 < m) :
    divNearest (num * m) (den * m) = divNearest num den := by
  have htwice : 2 * (num % den * m) = 2 * (num % den) * m := (Nat.mul_assoc _ _ _).symm
  have hlt : 2 * (num % den) * m < den * m ↔ 2 * (num % den) < den := Nat.mul_lt_mul_right h
  have heq : 2 * (num % den) * m = den * m ↔ 2 * (num % den) = den :=
    Nat.mul_left_inj (Nat.ne_of_gt h)
  simp only [divNearest, Nat.mul_div_mul_right num den h, Nat.mul_mod_mul_right, htwice, hlt, heq]

theorem nearestRank_mul_mul (f : FloatFormat) (num den : Nat) {m : Nat} (h : 0 < m) :
    f.nearestRank (num * m) (den * m) = f.nearestRank num den := by
  simp only [nearestRank, Nat.mul_div_mul_right num den h]
  rw [Nat.mul_right_comm den m, divNearest_mul_mul _ _ h]

theorem div_le_divNearest (num den : Nat) : num / den ≤ divNearest num den := by
  unfold divNearest
  grind

theorem divNearest_le_succ (num den : Nat) : divNearest num den ≤ num / den + 1 := by
  unfold divNearest
  grind

theorem divNearest_mul_eq_iff (num : Nat) {den : Nat} (h : 0 < den) :
    divNearest num den * den = num ↔ den ∣ num := by
  constructor
  · intro heq
    exact ⟨divNearest num den, by rw [Nat.mul_comm]; exact heq.symm⟩
  · rintro ⟨k, rfl⟩
    rw [Nat.mul_comm den k, divNearest_mul k h]

/-- The magnitude of a rank in a binade, or of the first one after it. -/
theorem units_binade (f : FloatFormat) {shift significand : Nat}
    (hlow : Nat.pow 2 f.fraction ≤ significand)
    (hhigh : significand ≤ 2 * Nat.pow 2 f.fraction) :
    f.units (shift * Nat.pow 2 f.fraction + significand) = significand * Nat.pow 2 shift := by
  obtain ⟨binade, hb⟩ : ∃ binade, binade = Nat.pow 2 f.fraction := ⟨_, rfl⟩
  have hpos : 0 < binade := by
    rw [hb]
    exact Nat.two_pow_pos _
  rw [← hb] at hlow hhigh
  have hlarge : ¬ shift * binade + significand < binade :=
    Nat.not_lt.2 (Nat.le_trans hlow (Nat.le_add_left _ _))
  simp only [units, ← hb, if_neg hlarge]
  obtain ⟨rest, rfl⟩ : ∃ rest, significand = binade + rest := Nat.exists_eq_add_of_le hlow
  have hrank : shift * binade + (binade + rest) = rest + (shift + 1) * binade := by
    rw [Nat.add_mul, Nat.one_mul]
    omega
  rw [hrank, Nat.add_mul_mod_self_right, Nat.add_mul_div_right _ _ hpos]
  by_cases hlast : rest = binade
  · have hdouble : binade * Nat.pow 2 (shift + 1) = (binade + binade) * Nat.pow 2 shift := by
      rw [← Nat.two_mul, Nat.mul_comm 2 binade, Nat.mul_assoc, Nat.pow_eq, Nat.pow_eq,
        Nat.pow_succ']
    have hexp : 1 + (shift + 1) - 1 = shift + 1 := by omega
    rw [hlast, Nat.mod_self, Nat.add_zero, Nat.div_self hpos, hexp, hdouble]
  · have hrest : rest < binade := by omega
    rw [Nat.mod_eq_of_lt hrest, Nat.div_eq_of_lt hrest, Nat.zero_add, Nat.add_sub_cancel]

section Surplus

variable (f : FloatFormat) {n surplus : Nat}

/-- A number whose first bit stands so many places above the significand's. -/
theorem nearestRank_surplus (hlow : Nat.pow 2 (f.fraction + surplus) ≤ n)
    (hhigh : n < 2 * Nat.pow 2 (f.fraction + surplus)) :
    f.nearestRank (n * Nat.pow 2 f.scale) 1 =
      (surplus + f.scale) * Nat.pow 2 f.fraction + divNearest n (Nat.pow 2 surplus) := by
  have hscale : 0 < Nat.pow 2 f.scale := Nat.two_pow_pos _
  obtain ⟨rest, hrest⟩ := Nat.exists_eq_add_of_le hlow
  have hlog := @log2_units _ rest f.scale (f.fraction + surplus) rfl (by omega)
  have hshift : f.fraction + surplus + f.scale - f.fraction = surplus + f.scale := by omega
  have hunits : Nat.pow 2 (surplus + f.scale) = Nat.pow 2 surplus * Nat.pow 2 f.scale :=
    Nat.pow_add _ _ _
  rw [← hrest] at hlog
  rw [nearestRank, Nat.div_one, hlog, hshift, Nat.one_mul, hunits,
    divNearest_mul_mul _ _ hscale]

theorem pow_le_divNearest (h : Nat.pow 2 (f.fraction + surplus) ≤ n) :
    Nat.pow 2 f.fraction ≤ divNearest n (Nat.pow 2 surplus) := by
  have hsplit : Nat.pow 2 (f.fraction + surplus) = Nat.pow 2 f.fraction * Nat.pow 2 surplus :=
    Nat.pow_add _ _ _
  rw [hsplit] at h
  exact Nat.le_trans ((Nat.le_div_iff_mul_le (Nat.two_pow_pos surplus)).2 h)
    (div_le_divNearest _ _)

theorem divNearest_le_pow (h : n < 2 * Nat.pow 2 (f.fraction + surplus)) :
    divNearest n (Nat.pow 2 surplus) ≤ 2 * Nat.pow 2 f.fraction := by
  have hsplit : Nat.pow 2 (f.fraction + surplus) = Nat.pow 2 f.fraction * Nat.pow 2 surplus :=
    Nat.pow_add _ _ _
  rw [hsplit, ← Nat.mul_assoc] at h
  exact Nat.le_trans (divNearest_le_succ _ _)
    ((Nat.div_lt_iff_lt_mul (Nat.two_pow_pos surplus)).2 h)

end Surplus

end FloatFormat

namespace Finite

variable {f : FloatFormat}

theorem units_eq_zero_iff (x : Finite f) : x.units = 0 ↔ x.isZero = true := by
  have hzero : f.units 0 = 0 := if_pos (Nat.two_pow_pos f.fraction)
  constructor
  · intro h
    have hrank := f.nearestRank_units x.rank
    rw [show f.units x.rank = 0 from h, ← hzero, f.nearestRank_units] at hrank
    simp [isZero, ← hrank]
  · intro h
    rw [units, show (x.rank : Nat) = 0 by simpa [isZero] using h, hzero]

end Finite

namespace Binary

variable (f : FloatFormat) (negative : Bool)

theorem ofFraction_mul_mul (num den : Nat) {m : Nat} (h : 0 < m) :
    ofFraction f negative (num * m) (den * m) = ofFraction f negative num den := by
  rw [ofFraction, Nat.mul_right_comm num m, FloatFormat.nearestRank_mul_mul f _ _ h, ofFraction]

theorem ofFraction_congr {num den num' den' : Nat} (hden : 0 < den) (hden' : 0 < den')
    (h : num * den' = num' * den) :
    ofFraction f negative num den = ofFraction f negative num' den' := by
  rw [← ofFraction_mul_mul f negative num den hden', h, Nat.mul_comm den den',
    ofFraction_mul_mul f negative num' den' hden]

theorem ofFraction_units (x : Finite f) :
    ofFraction f x.negative x.units (Nat.pow 2 f.scale) = .finite x := by
  have hrank : f.nearestRank (x.units * Nat.pow 2 f.scale) (Nat.pow 2 f.scale) = x.rank := by
    have hone := f.nearestRank_mul_mul x.units 1 (Nat.two_pow_pos f.scale)
    rw [Nat.one_mul] at hone
    exact hone.trans (f.nearestRank_units x.rank)
  rw [ofFraction, hrank, ofRank, dif_pos x.rank.isLt]

/-- An integer with more bits than a significand is rounded to a multiple of the power of two that
the surplus bits make. -/
theorem exists_ofInt {f : FloatFormat} {n : Int} {surplus : Nat}
    (hlow : Nat.pow 2 (f.fraction + surplus) ≤ n.natAbs)
    (hhigh : n.natAbs < 2 * Nat.pow 2 (f.fraction + surplus))
    (hreach : surplus + f.scale + 2 ≤ f.binades) :
    ∃ x : Finite f, ofInt f n = .finite x ∧ x.negative = decide (n < 0) ∧
      x.units = FloatFormat.divNearest n.natAbs (Nat.pow 2 surplus) * Nat.pow 2 surplus *
        Nat.pow 2 f.scale := by
  have hrank := f.nearestRank_surplus hlow hhigh
  have hleast := f.pow_le_divNearest hlow
  have hmost := f.divNearest_le_pow hhigh
  generalize FloatFormat.divNearest n.natAbs (Nat.pow 2 surplus) = significand
    at hrank hleast hmost ⊢
  have hcount : (surplus + f.scale) * Nat.pow 2 f.fraction + significand < f.count := by
    have hpos : 0 < Nat.pow 2 f.fraction := Nat.two_pow_pos _
    calc (surplus + f.scale) * Nat.pow 2 f.fraction + significand
        ≤ (surplus + f.scale + 2) * Nat.pow 2 f.fraction := by
          rw [Nat.add_mul (surplus + f.scale) 2]
          omega
      _ ≤ f.binades * Nat.pow 2 f.fraction := Nat.mul_le_mul_right _ hreach
      _ < f.count := by
          rw [FloatFormat.count, Nat.add_mul]
          omega
  refine ⟨⟨n < 0, _, hcount⟩, ?_, rfl, ?_⟩
  · rw [ofInt, ofFraction, hrank, ofRank, dif_pos hcount]
  · have hunits : Nat.pow 2 (surplus + f.scale) = Nat.pow 2 surplus * Nat.pow 2 f.scale :=
      Nat.pow_add _ _ _
    show f.units ((surplus + f.scale) * Nat.pow 2 f.fraction + significand) = _
    rw [FloatFormat.units_binade f hleast hmost, hunits, Nat.mul_assoc]

end Binary

end FluentQuery
