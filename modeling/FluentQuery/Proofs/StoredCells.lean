import FluentQuery.Embedded.Executor
import FluentQuery.Proofs.Rounding

/-!
Cells of a column of their own kind. Main statements: by the affinities of columns, of all values
only the negative zero is changed where it is stored; and what is read back of a value is the value
itself, save for truth values, arrays and objects.
-/
namespace FluentQuery

namespace Finite

variable {f : FloatFormat} {x : Finite f}

def Unsigned (x : Finite f) : Prop := x.isZero = true → x.negative = false

theorem natAbs_signedUnits (x : Finite f) : x.signedUnits.natAbs = x.units := by
  unfold signedUnits
  split <;> simp

theorem signedUnits_neg_iff (h : x.Unsigned) : x.signedUnits < 0 ↔ x.negative = true := by
  have hzero := units_eq_zero_iff x
  unfold Unsigned at h
  unfold signedUnits
  cases hn : x.negative with
  | false => simp
  | true =>
    have hunits : x.units ≠ 0 := fun hu => by simp [h (hzero.1 hu)] at hn
    simp
    omega

theorem ofInt_eq (h : x.Unsigned) {n : Int} (hn : x.signedUnits = n * Nat.pow 2 f.scale) :
    Binary.ofInt f n = .finite x := by
  have hscale : (0 : Int) < Nat.pow 2 f.scale := Int.natCast_pos.2 (Nat.two_pow_pos _)
  have hunits : n.natAbs * Nat.pow 2 f.scale = x.units := by
    rw [← natAbs_signedUnits, hn, Int.natAbs_mul, Int.natAbs_natCast]
  have hsign : decide (n < 0) = x.negative := by
    rw [Bool.eq_iff_iff, decide_eq_true_eq, ← signedUnits_neg_iff h, hn]
    constructor
    · intro hlt
      exact Int.mul_neg_of_neg_of_pos hlt hscale
    · intro hlt
      refine Int.not_le.1 fun hge => ?_
      exact Int.not_le.2 hlt (Int.mul_nonneg hge (Int.le_of_lt hscale))
  have hrank : f.nearestRank (n.natAbs * Nat.pow 2 f.scale) 1 = x.rank := by
    rw [hunits]
    exact f.nearestRank_units x.rank
  rw [Binary.ofInt, Binary.ofFraction, hrank, Binary.ofRank, dif_pos x.rank.isLt, hsign]

end Finite

namespace Embedded

open Sql

/-- The affinity of the column for values of this kind. -/
def affinityOf (tag : String) : Affinity := .ofType (declaredType tag)

theorem affinityOf_int : affinityOf "Int64" = .numeric := by decide

theorem affinityOf_bool : affinityOf "Bool" = .numeric := by decide

theorem affinityOf_float : affinityOf "Float64" = .real := by decide

theorem affinityOf_string : affinityOf "String" = .text := by decide

/-- A value is stored unchanged in a column of its own kind, where `kept` is what a column of an
affinity holds of a cell. -/
def ReadsBack (kept : Affinity → Cell → Cell) (v : Json) : Prop :=
  kept (affinityOf (Columns.tagOf v)) (Cell.ofJson v) = Cell.ofJson v

instance (kept : Affinity → Cell → Cell) (v : Json) : Decidable (ReadsBack kept v) :=
  inferInstanceAs (Decidable (_ = _))

def Narrow : Json → Prop
  | .int n => n.val < 9223372036854775808
  | _ => True

instance : (v : Json) → Decidable (Narrow v)
  | .int n => inferInstanceAs (Decidable (n.val < 9223372036854775808))
  | .null | .bool _ | .float _ | .str _ | .arr _ | .obj _ => inferInstanceAs (Decidable True)

theorem int64?_of_narrow {n : JsonInteger} (h : n.val < 9223372036854775808) :
    int64? n.val = some (Int64.ofInt n.val) := if_pos ⟨n.property.1, h⟩

theorem toInt_ofInt_of_narrow {n : JsonInteger} (h : n.val < 9223372036854775808) :
    (Int64.ofInt n.val).toInt = n.val := Int64.toInt_ofInt_of_le n.property.1 h

theorem ofJson_int {n : JsonInteger} (h : n.val < 9223372036854775808) :
    Cell.ofJson (.int n) = .integer (Int64.ofInt n.val) := by
  simp only [Cell.ofJson, int64?_of_narrow h]

theorem realOfInteger_of_integral? {x : Finite FloatFormat.double} (h : x.Unsigned) {n : Int64}
    (hn : integral? (.finite x) = some n) : realOfInteger n = .finite x := by
  simp only [integral?] at hn
  split at hn
  · next hwhole =>
    obtain ⟨hmod, hrange⟩ := hwhole
    cases hn
    have hexact := Int.mul_ediv_add_emod x.signedUnits (Nat.pow 2 FloatFormat.double.scale)
    rw [hmod, Int.add_zero, Int.mul_comm] at hexact
    have hbound : Nat.pow 2 63 = 9223372036854775808 := rfl
    rw [realOfInteger, Int64.toInt_ofInt_of_le (by omega) (by omega)]
    exact Finite.ofInt_eq h hexact.symm
  · cases hn

theorem readsBack_of_affinityOf {v : Json} {affinity : Affinity}
    (haffinity : affinityOf (Columns.tagOf v) = affinity)
    (h : (Cell.ofJson v).stored affinity = Cell.ofJson v) : ReadsBack Cell.stored v := by
  rw [ReadsBack, haffinity, h]

theorem readsBack_float {x : Finite FloatFormat.double} (h : x.Unsigned) :
    ReadsBack Cell.stored (.float x) := by
  refine readsBack_of_affinityOf affinityOf_float ?_
  show (Cell.asInteger (.real (.finite x))).asReal = .real (.finite x)
  cases hi : integral? (.finite x) with
  | none => simp [Cell.asInteger, hi, Cell.asReal]
  | some n => simp [Cell.asInteger, hi, Cell.asReal, realOfInteger_of_integral? h hi]

theorem not_readsBack_negativeZero : ¬ ReadsBack Cell.stored (.float (Finite.zero _ true)) := by
  decide +kernel

/-- Of the values within their ranges only the negative zero is changed. -/
theorem readsBack_iff {v : Json} (hv : Narrow v) :
    ReadsBack Cell.stored v ↔ ∀ x, v = .float x → x.Unsigned := by
  constructor
  · rintro h ⟨negative, rank⟩ rfl hzero
    cases negative with
    | false => rfl
    | true =>
      have hrank : rank = ⟨0, FloatFormat.count_pos _⟩ :=
        Fin.ext (by simpa [Finite.isZero] using hzero)
      rw [hrank] at h
      exact absurd h not_readsBack_negativeZero
  · intro hunsigned
    cases v with
    | null => exact readsBack_of_affinityOf affinityOf_string rfl
    | bool b => exact readsBack_of_affinityOf affinityOf_bool rfl
    | int n => exact readsBack_of_affinityOf affinityOf_int (by rw [ofJson_int hv]; rfl)
    | float x => exact readsBack_float (hunsigned x rfl)
    | str s => exact readsBack_of_affinityOf affinityOf_string rfl
    | arr items => exact readsBack_of_affinityOf affinityOf_string rfl
    | obj entries => exact readsBack_of_affinityOf affinityOf_string rfl

theorem stored_null (affinity : Affinity) : Cell.null.stored affinity = .null := by
  cases affinity <;> rfl

/-- What is read back of a value: truth values are numbers, arrays and objects are their texts. -/
def shown : Json → Json
  | .bool b => .ofInt64 (if b then 1 else 0)
  | .arr items => .str (Json.arr items).text
  | .obj entries => .str (Json.obj entries).text
  | v => v

theorem toJson_ofJson {v : Json} (hv : Narrow v) : (Cell.ofJson v).toJson = shown v := by
  cases v with
  | int n =>
    rw [ofJson_int hv]
    exact congrArg Json.int (Subtype.ext (toInt_ofInt_of_narrow hv))
  | _ => rfl

end Embedded

end FluentQuery
