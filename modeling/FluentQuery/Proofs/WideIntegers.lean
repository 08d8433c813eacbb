import FluentQuery.Proofs.NestedValues
import FluentQuery.Proofs.Numerals
import FluentQuery.Proofs.StoredCells

/-!
Integers on their two ways into a database: as literals of an insertion and as cells of a column.
Main statement: an integer is written and held as it is if and only if it is one of 64 bits with a
sign. Beyond them it becomes a floating-point number, though its column is one of integers, and
keeps its value only as a multiple of 2048.
-/
namespace FluentQuery

theorem isDigit_or_minus_of_mem_integerChars {n : Int} {c : Char} (h : c ∈ integerChars n) :
    c.isDigit = true ∨ c = '-' := by
  unfold integerChars at h
  split at h
  · rcases List.mem_cons.1 h with hminus | hdigit
    · exact .inr hminus
    · exact .inl (Numeral.isDigit_toDigits _ c hdigit)
  · exact .inl (Numeral.isDigit_toDigits _ c h)

theorem point_mem_positional (digits : List Char) (point : Int) :
    '.' ∈ positional digits point := by
  unfold positional
  split <;> simp

theorem exponent_mem_scientific (plus : Bool) (digits : List Char) (exponent : Int) :
    'e' ∈ scientific plus digits exponent := by
  simp [scientific]

variable {f : FloatFormat}

theorem Finite.exists_mark (layout : FloatLayout) (x : Finite f) :
    ∃ c ∈ x.chars layout, c.isDigit = false ∧ c ≠ '-' := by
  have hpoint : '.'.isDigit = false ∧ '.' ≠ '-' := by decide
  have hexponent : 'e'.isDigit = false ∧ 'e' ≠ '-' := by decide
  unfold Finite.chars
  generalize (if x.negative then ['-'] else []) = sign
  split
  · exact ⟨'.', by simp, hpoint⟩
  · dsimp only
    split
    · exact ⟨'.', List.mem_append_right _ (point_mem_positional _ _), hpoint⟩
    · exact ⟨'e', List.mem_append_right _ (exponent_mem_scientific _ _ _), hexponent⟩

theorem Binary.literal_ne_integerText (x : Binary f) (n : Int) : x.literal ≠ integerText n := by
  have hmark : ∃ c ∈ x.literal.toList, c.isDigit = false ∧ c ≠ '-' := by
    cases x with
    | nan => exact ⟨'N', show 'N' ∈ "NaN".toList by decide, by decide⟩
    | infinite negative =>
      have hi : 'i' ∈ "inf".toList ∧ 'i' ∈ "-inf".toList := by decide
      cases negative with
      | false => exact ⟨'i', hi.1, by decide⟩
      | true => exact ⟨'i', hi.2, by decide⟩
    | finite x =>
      rw [literal, String.toList_ofList]
      exact x.exists_mark .literal
  obtain ⟨c, hc, hdigit, hminus⟩ := hmark
  intro heq
  rw [heq, integerText, String.toList_ofList] at hc
  rcases isDigit_or_minus_of_mem_integerChars hc with hd | hm
  · simp [hd] at hdigit
  · exact hminus hm

namespace JsonInteger

variable {n : JsonInteger}

theorem exists_double (h : 9223372036854775808 ≤ n.val) : ∃ x : Finite .double,
    Binary.ofInt .double n.val = .finite x ∧
      x.signedUnits = 2048 * FloatFormat.divNearest n.val.natAbs 2048 *
        Nat.pow 2 FloatFormat.double.scale := by
  have hupper := n.property.2
  have hlow : Nat.pow 2 (FloatFormat.double.fraction + 11) ≤ n.val.natAbs := by
    show 9223372036854775808 ≤ n.val.natAbs
    omega
  have hhigh : n.val.natAbs < 2 * Nat.pow 2 (FloatFormat.double.fraction + 11) := by
    show n.val.natAbs < 2 * 9223372036854775808
    omega
  obtain ⟨x, hx, hsign, hunits⟩ := Binary.exists_ofInt hlow hhigh (by decide)
  refine ⟨x, hx, ?_⟩
  have hpositive : x.negative = false := by
    rw [hsign, decide_eq_false_iff_not]
    omega
  rw [Finite.signedUnits, hpositive, if_neg Bool.false_ne_true, hunits, Int.natCast_mul,
    Int.natCast_mul, Int.mul_comm 2048]
  rfl

theorem ofJson_wide (h : 9223372036854775808 ≤ n.val) : ∃ x : Finite .double,
    Value.ofJson (.int n) = .float64 (.finite x) ∧
      Sql.Cell.ofJson (.int n) = .real (.finite x) ∧
      x.signedUnits = 2048 * FloatFormat.divNearest n.val.natAbs 2048 *
        Nat.pow 2 FloatFormat.double.scale := by
  obtain ⟨x, hx, hunits⟩ := exists_double h
  have hnone : int64? n.val = none := if_neg (by omega)
  refine ⟨x, ?_, ?_, hunits⟩
  · simp only [Value.ofJson, hnone, hx]
  · simp only [Sql.Cell.ofJson, hnone, hx]

theorem le_double (h : 9223372036854775808 ≤ n.val) :
    9223372036854775808 ≤ (2048 * FloatFormat.divNearest n.val.natAbs 2048 : Int) := by
  have hquotient := FloatFormat.div_le_divNearest n.val.natAbs 2048
  omega

/-- It keeps its value only as a multiple of 2048. -/
theorem double_eq_iff (h : 9223372036854775808 ≤ n.val) :
    (2048 * FloatFormat.divNearest n.val.natAbs 2048 : Int) = n.val ↔ 2048 ∣ n.val := by
  have hmultiple := FloatFormat.divNearest_mul_eq_iff n.val.natAbs (show 0 < 2048 by decide)
  omega

theorem integral?_eq_none {x : Finite .double} {m : Int}
    (hx : x.signedUnits = m * Nat.pow 2 FloatFormat.double.scale) (hm : 9223372036854775808 ≤ m) :
    Sql.integral? (.finite x) = none := by
  have hpos : ∀ k, (Nat.pow 2 k : Int) ≠ 0 := fun k => Int.natCast_ne_zero.2
    (Nat.ne_of_gt (Nat.two_pow_pos k))
  refine if_neg fun hcond => ?_
  obtain ⟨-, hlt⟩ := hcond
  rw [hx, Int.mul_ediv_cancel _ (hpos _)] at hlt
  have hbound : Nat.pow 2 63 = 9223372036854775808 := rfl
  omega

/-- A column of integers holds the number as it is. -/
theorem stored_wide (h : 9223372036854775808 ≤ n.val) :
    (Sql.Cell.ofJson (.int n)).stored (Embedded.affinityOf "Int64") =
      Sql.Cell.ofJson (.int n) := by
  obtain ⟨x, -, hcell, hunits⟩ := ofJson_wide h
  rw [hcell, Embedded.affinityOf_int]
  simp only [Sql.Cell.stored, Sql.Cell.asNumber, Sql.Cell.asInteger,
    integral?_eq_none hunits (le_double h), Option.map_none, Option.getD_none]

theorem literal_eq_iff (n : JsonInteger) :
    (Value.ofJson (.int n)).literal = integerText n.val ↔ n.val < 9223372036854775808 := by
  constructor
  · intro hliteral
    by_contra hwide
    obtain ⟨x, hvalue, -, -⟩ := ofJson_wide (Int.not_lt.1 hwide)
    rw [hvalue, Value.literal] at hliteral
    exact Binary.literal_ne_integerText _ _ hliteral
  · intro hnarrow
    simp only [Value.ofJson, Embedded.int64?_of_narrow hnarrow, Value.literal,
      Embedded.toInt_ofInt_of_narrow hnarrow]

theorem cell_eq_iff (n : JsonInteger) :
    (∃ i, Sql.Cell.ofJson (.int n) = .integer i ∧ i.toInt = n.val) ↔
      n.val < 9223372036854775808 := by
  constructor
  · rintro ⟨i, hcell, -⟩
    by_contra hwide
    obtain ⟨x, -, hreal, -⟩ := ofJson_wide (Int.not_lt.1 hwide)
    rw [hreal] at hcell
    cases hcell
  · intro hnarrow
    exact ⟨_, Embedded.ofJson_int hnarrow, Embedded.toInt_ofInt_of_narrow hnarrow⟩

end JsonInteger

/-- An integer at any place in an insertion is written as it is, and one of a column is held as it
is, if and only if it is one of 64 bits with a sign. Any other is a floating-point number in the
statement and in the column, even in a column of integers, and has kept its value just where it is a
multiple of 2048. -/
theorem integer_kept_iff (n : JsonInteger) :
    (∀ place : Insert.Place, ∃ front back,
      (∀ v, (place.filled v).sql = .ok (front ++ (Value.ofJson v).literal ++ back)) ∧
      ((place.filled (.int n)).sql = .ok (front ++ integerText n.val ++ back) ↔
        n.val < 9223372036854775808)) ∧
    (∀ cells, Columns.tag (.int n :: cells) = "Int64") ∧
    ((∃ i, Sql.Cell.ofJson (.int n) = .integer i ∧ i.toInt = n.val) ↔ n.val < 9223372036854775808) ∧
    (9223372036854775808 ≤ n.val → ∃ x : Finite .double,
      Value.ofJson (.int n) = .float64 (.finite x) ∧
      Sql.Cell.ofJson (.int n) = .real (.finite x) ∧
      (Sql.Cell.ofJson (.int n)).stored (Embedded.affinityOf "Int64") = .real (.finite x) ∧
      ∃ m : Int, x.signedUnits = m * Nat.pow 2 FloatFormat.double.scale ∧
        (m = n.val ↔ 2048 ∣ n.val)) := by
  refine ⟨fun place => ?_, fun cells => rfl, n.cell_eq_iff, fun hwide => ?_⟩
  · obtain ⟨front, back, htext⟩ := place.encloses_text
    have hsql : ∀ v, (place.filled v).sql = .ok (front ++ (Value.ofJson v).literal ++ back) :=
      fun v => by rw [place.sql_filled, htext v]
    refine ⟨front, back, hsql, ?_⟩
    rw [hsql, Except.ok.injEq, String.append_left_inj, String.append_right_inj]
    exact n.literal_eq_iff
  · obtain ⟨x, hvalue, hcell, hunits⟩ := JsonInteger.ofJson_wide hwide
    have hstored := JsonInteger.stored_wide hwide
    rw [hcell] at hstored
    refine ⟨x, hvalue, hcell, ?_, _, hunits, JsonInteger.double_eq_iff hwide⟩
    rw [hcell, hstored]

def greatestInteger : JsonInteger := ⟨18446744073709551615, by decide⟩

theorem integerText_greatestInteger : integerText greatestInteger.val = "18446744073709551615" := by
  decide +kernel

theorem literal_greatestInteger :
    (Value.ofJson (.int greatestInteger)).literal = "1.8446744073709552e19" := by
  decide +kernel

/-- The greatest integer, within two arrays in the second column of a record. -/
theorem integer_kept_iff_greatest :
    let place := Insert.Place.ofRecord "t" [("id", .int ⟨7, by decide⟩)] "tags"
      [([], []), ([.null], [.str "x"])] []
    9223372036854775808 ≤ greatestInteger.val ∧
      place.filled (.int greatestInteger) = (Insert.into "t").values (Row.ofRecord
        [("id", .int ⟨7, by decide⟩),
          ("tags", .arr [.arr [.null, .int greatestInteger, .str "x"]])]) ∧
      (∃ front back,
        (place.filled (.int greatestInteger)).sql ≠
          .ok (front ++ "18446744073709551615" ++ back) ∧
        (place.filled (.int greatestInteger)).sql =
          .ok (front ++ "1.8446744073709552e19" ++ back)) ∧
      ∃ x : Finite .double, (Sql.Cell.ofJson (.int greatestInteger)).stored
          (Embedded.affinityOf "Int64") = .real (.finite x) ∧
        ∃ m : Int, x.signedUnits = m * Nat.pow 2 FloatFormat.double.scale ∧
          m ≠ greatestInteger.val := by
  intro place
  have hwide : 9223372036854775808 ≤ greatestInteger.val := by decide
  obtain ⟨hwritten, -, -, hbeyond⟩ := integer_kept_iff greatestInteger
  obtain ⟨front, back, hsql, hiff⟩ := hwritten place
  obtain ⟨x, -, -, hstored, m, hunits, hvalue⟩ := hbeyond hwide
  refine ⟨hwide, Insert.Place.filled_ofRecord _ _ _ _ _ _, ⟨front, back, ?_, ?_⟩, x, hstored, m,
    hunits, ?_⟩
  · rw [← integerText_greatestInteger]
    exact fun h => absurd (hiff.1 h) (by decide)
  · rw [hsql, literal_greatestInteger]
  · exact fun h => absurd (hvalue.1 h) (by decide)

/-- The greatest integer is changed on both ways, in a column of integers. -/
theorem greatest_integer_changed :
    integerText greatestInteger.val = "18446744073709551615" ∧
      ((Insert.into "t").values (Row.ofRecord
        [("id", .int greatestInteger), ("tags", .arr [.arr [.int greatestInteger]])])).sql =
        .ok "INSERT INTO t (id, tags) VALUES (1.8446744073709552e19, [[1.8446744073709552e19]])" ∧
      Columns.tag [.int greatestInteger] = "Int64" ∧
      ∀ i, Sql.Cell.ofJson (.int greatestInteger) ≠ .integer i := by
  refine ⟨integerText_greatestInteger, ?_, rfl, fun i hcell => ?_⟩
  · simp [Insert.sql, Insert.values, Insert.into, Row.ofRecord, Value.literal_ofJson_arr,
      literal_greatestInteger]
  · obtain ⟨x, -, hreal, -⟩ := @JsonInteger.ofJson_wide greatestInteger (by decide)
    rw [hreal] at hcell
    cases hcell

end FluentQuery
