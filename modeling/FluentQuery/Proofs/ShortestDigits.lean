import FluentQuery.Number.Shortest
import FluentQuery.Proofs.Rounding

/-!
Decimals that are read back. Main statements: a decimal stands for one number however its power of
ten is written, and the shortest decimal of a number is read back as that number.
-/
namespace FluentQuery

namespace Decimal

theorem width_pos (n : Nat) : 0 < width n := Nat.length_toDigits_pos

theorem width_mul_pow {n : Nat} (h : 0 < n) (k : Nat) :
    width (n * Nat.pow 10 k) = width n + k := by
  rw [Nat.pow_eq]
  induction k with
  | zero => simp
  | succ k ih =>
    have hpos : 0 < n * 10 ^ k := Nat.mul_pos h (Nat.pow_pos (by decide))
    have hsucc : n * 10 ^ (k + 1) = 10 * (n * 10 ^ k) + 0 := by
      rw [Nat.pow_succ, ← Nat.mul_assoc, Nat.mul_comm, Nat.add_zero]
    have hdigits := Nat.toDigits_append_toDigits (b := 10) (by decide) hpos (by decide : 0 < 10)
    rw [width, hsucc, ← hdigits, List.length_append, Nat.toDigits_zero]
    change width (n * 10 ^ k) + 1 = _
    omega

theorem toBinary_eq_ofFraction (f : FloatFormat) {d : Decimal} (hne : d.coefficient ≠ 0)
    (htop : width d.coefficient + d.exponent ≤ (f.binades + f.scale : Int))
    (hbottom : -(f.binades + f.scale : Int) ≤ width d.coefficient + d.exponent) :
    d.toBinary f = .ofFraction f d.negative (d.coefficient * Nat.pow 10 d.exponent.toNat)
      (Nat.pow 10 (-d.exponent).toNat) := by
  simp only [toBinary, if_neg hne, if_neg (Int.not_lt.2 htop), if_neg (Int.not_lt.2 hbottom)]
  split
  · next hexponent =>
    have hzero : (-d.exponent).toNat = 0 := by omega
    rw [hzero]
  · next hexponent =>
    have hzero : d.exponent.toNat = 0 := by omega
    have habs : (-d.exponent).toNat = d.exponent.natAbs := by omega
    have hone : d.coefficient * Nat.pow 10 0 = d.coefficient := Nat.mul_one _
    rw [hzero, habs, hone]

/-- Zeros at the end of the coefficient do not count. -/
theorem toBinary_shift (f : FloatFormat) (negative : Bool) {coefficient : Nat}
    (h : 0 < coefficient) (exponent : Int) (k : Nat) :
    toBinary f ⟨negative, coefficient * Nat.pow 10 k, exponent - k⟩ =
      toBinary f ⟨negative, coefficient, exponent⟩ := by
  have hpos : 0 < coefficient * Nat.pow 10 k := Nat.mul_pos h (Nat.pow_pos (by decide))
  have htop : (width (coefficient * Nat.pow 10 k) : Int) + (exponent - k) =
      width coefficient + exponent := by
    rw [width_mul_pow h]
    omega
  by_cases hhigh : (f.binades + f.scale : Int) < width coefficient + exponent
  · simp only [toBinary, htop, hhigh, if_true, Nat.ne_of_gt h, Nat.ne_of_gt hpos, if_false]
  by_cases hlow : width coefficient + exponent < -(f.binades + f.scale : Int)
  · simp only [toBinary, htop, hhigh, hlow, if_true, Nat.ne_of_gt h, Nat.ne_of_gt hpos, if_false]
  rw [toBinary_eq_ofFraction f (Nat.ne_of_gt hpos) (by dsimp only; omega) (by dsimp only; omega),
    toBinary_eq_ofFraction f (Nat.ne_of_gt h) (by dsimp only; omega) (by dsimp only; omega)]
  refine Binary.ofFraction_congr f negative (Nat.pow_pos (by decide)) (Nat.pow_pos (by decide)) ?_
  dsimp only
  have hpowers : k + (exponent - k).toNat + (-exponent).toNat =
      exponent.toNat + (-(exponent - k)).toNat := by omega
  simp only [Nat.pow_eq]
  rw [Nat.mul_assoc, Nat.mul_assoc, Nat.mul_assoc, ← Nat.pow_add, ← Nat.pow_add, ← Nat.pow_add,
    ← Nat.add_assoc, hpowers]

end Decimal

namespace FloatFormat

/-- A magnitude of the format is below the power of two that follows the last one. -/
theorem units_lt (f : FloatFormat) {rank : Nat} (h : rank < f.count) :
    f.units rank < Nat.pow 2 (f.fraction + f.binades) := by
  have hbinade : 0 < 2 ^ f.fraction := Nat.two_pow_pos _
  rw [Nat.pow_eq, Nat.pow_add]
  simp only [units, count, Nat.pow_eq] at h ⊢
  split
  · next hsmall =>
    exact Nat.lt_of_lt_of_le hsmall (Nat.le_mul_of_pos_right _ (Nat.two_pow_pos _))
  · next hlarge =>
    have hquotient : rank / 2 ^ f.fraction ≤ f.binades :=
      Nat.lt_succ_iff.1 ((Nat.div_lt_iff_lt_mul hbinade).2 h)
    have hpos : 0 < rank / 2 ^ f.fraction := Nat.div_pos (Nat.not_lt.1 hlarge) hbinade
    have hremainder : 2 ^ f.fraction + rank % 2 ^ f.fraction < 2 ^ f.fraction * 2 := by
      have hmod := Nat.mod_lt rank hbinade
      omega
    have hpower : 2 * 2 ^ (rank / 2 ^ f.fraction - 1) ≤ 2 ^ f.binades := by
      rw [Nat.mul_comm, ← Nat.pow_succ]
      exact Nat.pow_le_pow_right (by decide) (by omega)
    calc (2 ^ f.fraction + rank % 2 ^ f.fraction) * 2 ^ (rank / 2 ^ f.fraction - 1)
        < 2 ^ f.fraction * 2 * 2 ^ (rank / 2 ^ f.fraction - 1) :=
          Nat.mul_lt_mul_of_pos_right hremainder (Nat.two_pow_pos _)
      _ = 2 ^ f.fraction * (2 * 2 ^ (rank / 2 ^ f.fraction - 1)) := Nat.mul_assoc _ _ _
      _ ≤ 2 ^ f.fraction * 2 ^ f.binades := Nat.mul_le_mul_left _ hpower

end FloatFormat

namespace Finite

variable {f : FloatFormat} {x : Finite f}

theorem onGrid_eq_some {tie : Tie} {exponent : Int} {coefficient : Nat}
    (h : onGrid tie x exponent = some coefficient) : x.readsBack coefficient exponent = true := by
  have hnearer : ∀ (low : Nat) (upper : Bool), x.readsBack low exponent = true →
      x.readsBack (low + 1) exponent = true →
      x.readsBack (if upper then low + 1 else low) exponent = true := by
    intro low upper hlow hhigh
    cases upper with
    | false => exact hlow
    | true => exact hhigh
  unfold onGrid at h
  dsimp only at h
  split at h
  · next hlow hhigh =>
    rw [← Option.some.inj h]
    exact hnearer _ _ hlow hhigh
  · next hlow _ =>
    cases h
    exact hlow
  · next _ hhigh =>
    cases h
    exact hhigh
  · cases h

/-- The exact expansion of a number is read back. -/
theorem readsBack_exact (hf : f.fraction ≤ f.scale) (hx : x.isZero = false) :
    x.readsBack (x.units * Nat.pow 5 f.scale) (-f.scale) = true := by
  have hunits : x.units ≠ 0 := fun h => by simp [(units_eq_zero_iff x).1 h] at hx
  have hne : x.units * 5 ^ f.scale ≠ 0 :=
    Nat.mul_ne_zero hunits (Nat.ne_of_gt (Nat.pow_pos (by decide)))
  have hwidth : Decimal.width (x.units * 5 ^ f.scale) ≤ f.fraction + f.binades + f.scale := by
    have hlt : x.units < 2 ^ (f.fraction + f.binades) := f.units_lt x.rank.isLt
    have hexponent : 0 < f.fraction + f.binades := by
      refine Nat.pos_of_ne_zero fun hzero => hunits ?_
      rw [hzero] at hlt
      exact Nat.lt_one_iff.1 hlt
    refine (Nat.length_toDigits_le_iff (by decide) (by omega)).2 ?_
    calc x.units * 5 ^ f.scale
        < 2 ^ (f.fraction + f.binades) * 5 ^ f.scale :=
          Nat.mul_lt_mul_of_pos_right hlt (Nat.pow_pos (by decide))
      _ ≤ 10 ^ (f.fraction + f.binades) * 10 ^ f.scale :=
          Nat.mul_le_mul (Nat.pow_le_pow_left (by decide) _) (Nat.pow_le_pow_left (by decide) _)
      _ = 10 ^ (f.fraction + f.binades + f.scale) := (Nat.pow_add _ _ _).symm
  have hpos := Decimal.width_pos (x.units * 5 ^ f.scale)
  have hfraction : Binary.ofFraction f x.negative (x.units * 5 ^ f.scale) (10 ^ f.scale) =
      .finite x := by
    rw [← Binary.ofFraction_units f x]
    refine Binary.ofFraction_congr f _ (Nat.pow_pos (by decide)) (Nat.two_pow_pos _) ?_
    rw [Nat.pow_eq, Nat.mul_assoc, ← Nat.mul_pow]
  refine decide_eq_true ?_
  rw [Decimal.toBinary_eq_ofFraction f hne]
  · simpa using hfraction
  · dsimp only [Nat.pow_eq]
    omega
  · dsimp only [Nat.pow_eq]
    omega

theorem readsBack_shortestFrom (hf : f.fraction ≤ f.scale) (hx : x.isZero = false) (tie : Tie)
    (point : Int) (digits left : Nat) :
    x.readsBack (shortestFrom tie x point digits left).1
      (shortestFrom tie x point digits left).2 = true := by
  induction left generalizing digits with
  | zero => exact readsBack_exact hf hx
  | succ left ih =>
    rw [shortestFrom]
    split
    · next coefficient hgrid => exact onGrid_eq_some hgrid
    · exact ih (digits + 1)

/-- The shortest decimal of a number is read back as that number. -/
theorem toBinary_shortest (hf : f.fraction ≤ f.scale) (hx : x.isZero = false) (tie : Tie) :
    Decimal.toBinary f ⟨x.negative, (x.shortest tie).1, (x.shortest tie).2⟩ = .finite x :=
  of_decide_eq_true (readsBack_shortestFrom hf hx tie _ _ _)

theorem shortest_pos (hf : f.fraction ≤ f.scale) (hx : x.isZero = false) (tie : Tie) :
    0 < (x.shortest tie).1 := by
  refine Nat.pos_of_ne_zero fun hzero => ?_
  have hread := toBinary_shortest hf hx tie
  rw [hzero] at hread
  have hfinite : Binary.finite (zero f x.negative) = .finite x := hread
  have hrank : x = zero f x.negative := (Binary.finite.inj hfinite).symm
  rw [hrank] at hx
  cases hx

end Finite

end FluentQuery
