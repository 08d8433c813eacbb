import FluentQuery.Proofs.FixedWidth
import FluentQuery.Value.Basic

/-!
The order of date-times and of their literals. Main statement: the bytes of the literals of years
with four digits are ordered as the seconds that the date-times fall in, of which a leap second is
one of its own, and equal literals name the same second.
-/
namespace FluentQuery

/-- The first list comes before the second one in the order of the entries, or is equal to it. -/
def AtMost {α : Type} [LT α] (as bs : List α) : Prop := ¬ bs < as

theorem eq_iff_atMost {α : Type} [LT α] [Std.Irrefl fun a b : α => a < b]
    [Std.Trichotomous fun a b : α => a < b] {as bs : List α} :
    as = bs ↔ AtMost as bs ∧ AtMost bs as := by
  constructor
  · rintro rfl
    exact ⟨List.lt_irrefl _, List.lt_irrefl _⟩
  · rintro ⟨h, h'⟩
    exact List.le_antisymm h h'

namespace Text

def bytes (s : String) : List UInt8 := s.toUTF8.data.toList

def IsAscii (cs : List Char) : Prop := ∀ c ∈ cs, c.toNat < 128

variable {cs ds : List Char}

theorem flatMap_utf8EncodeChar (h : IsAscii cs) :
    cs.flatMap String.utf8EncodeChar = cs.map fun c => UInt8.ofNat c.toNat := by
  induction cs with
  | nil => rfl
  | cons c cs ih =>
    obtain ⟨hc, hcs⟩ := List.forall_mem_cons.1 h
    have hone : String.utf8EncodeChar c = [UInt8.ofNat c.toNat] := if_pos (Nat.le_of_lt_succ hc)
    rw [List.flatMap_cons, hone, ih hcs]
    rfl

theorem toNat_ofNat_ascii {c : Char} (h : c.toNat < 128) : (UInt8.ofNat c.toNat).toNat = c.toNat :=
  UInt8.toNat_ofNat_of_lt' (Nat.lt_trans h (by decide))

theorem map_lt_map_iff (hcs : IsAscii cs) (hds : IsAscii ds) :
    (cs.map fun c => UInt8.ofNat c.toNat) < ds.map (fun d => UInt8.ofNat d.toNat) ↔ cs < ds := by
  induction cs generalizing ds with
  | nil => cases ds <;> simp
  | cons c cs ih =>
    cases ds with
    | nil => simp
    | cons d ds =>
      obtain ⟨hc, hcs⟩ := List.forall_mem_cons.1 hcs
      obtain ⟨hd, hds⟩ := List.forall_mem_cons.1 hds
      have hlt : UInt8.ofNat c.toNat < UInt8.ofNat d.toNat ↔ c < d := by
        rw [UInt8.lt_iff_toNat_lt, toNat_ofNat_ascii hc, toNat_ofNat_ascii hd]
        rfl
      have heq : UInt8.ofNat c.toNat = UInt8.ofNat d.toNat ↔ c = d := by
        rw [← UInt8.toNat_inj, toNat_ofNat_ascii hc, toNat_ofNat_ascii hd, Char.toNat_inj]
      rw [List.map_cons, List.map_cons, List.cons_lt_cons_iff, List.cons_lt_cons_iff, hlt, heq,
        ih hcs hds]

theorem bytes_of_isAscii {s : String} (h : IsAscii s.toList) :
    bytes s = s.toList.map fun c => UInt8.ofNat c.toNat := by
  have hencode : s.toUTF8 = s.toList.utf8Encode := by
    rw [String.toUTF8_eq_toByteArray, ← String.toByteArray_ofList, String.ofList_toList]
  rw [bytes, hencode, List.utf8Encode, List.data_toByteArray, flatMap_utf8EncodeChar h]

theorem bytes_lt_bytes_iff {s t : String} (hs : IsAscii s.toList) (ht : IsAscii t.toList) :
    bytes s < bytes t ↔ s.toList < t.toList := by
  rw [bytes_of_isAscii hs, bytes_of_isAscii ht, map_lt_map_iff hs ht]

theorem bytes_inj {s t : String} : bytes s = bytes t ↔ s = t := by
  rw [bytes, bytes, Array.toList_inj, ← ByteArray.ext_iff, String.toUTF8_eq_toByteArray,
    String.toUTF8_eq_toByteArray, String.toByteArray_inj]

end Text

/-! Days and seconds. -/

def daysBefore (year : Int) : Nat → Nat
  | 0 => 0
  | month + 1 => daysBefore year month + daysOfMonth year month

theorem daysBefore_succ_le {year : Int} {month later : Nat} (h : month < later) :
    daysBefore year (month + 1) ≤ daysBefore year later := by
  induction h with
  | refl => exact Nat.le_refl _
  | step _ ih => exact Nat.le_trans ih (Nat.le_add_right _ _)

theorem daysBefore_add_lt_iff {year : Int} {month day month' day' : Nat}
    (h : 1 ≤ day ∧ day ≤ daysOfMonth year month)
    (h' : 1 ≤ day' ∧ day' ≤ daysOfMonth year month') :
    daysBefore year month + day < daysBefore year month' + day' ↔
      month < month' ∨ month = month' ∧ day < day' := by
  rcases Nat.lt_trichotomy month month' with hlt | rfl | hgt
  · have hdays := @daysBefore_succ_le year _ _ hlt
    rw [daysBefore] at hdays
    omega
  · omega
  · have hdays := @daysBefore_succ_le year _ _ hgt
    rw [daysBefore] at hdays
    omega

namespace DateTime

def dayOfYear (t : DateTime) : Nat := daysBefore t.year t.month + t.day

/-- The number of the second in its day. A leap second has that of the second before it. -/
def secondOfDay (t : DateTime) : Nat := (t.hour * 60 + t.minute) * 60 + t.second

/-- Where a date-time stands: its year, its day, its second and its nanosecond, of which a leap
second has a full second more. -/
def moment (t : DateTime) : List Int := [t.year, t.dayOfYear, t.secondOfDay, t.nano]

instance : LE DateTime := ⟨fun a b => AtMost a.moment b.moment⟩

/-- Where the second of a date-time stands. A leap second comes after the second whose number it
has. -/
def wholeSecond (t : DateTime) : List Int :=
  [t.year, t.dayOfYear, t.secondOfDay, t.nano / 1000000000]

def shown (t : DateTime) : List Nat :=
  [t.year.natAbs, t.month, t.day, t.hour, t.minute, t.shownSecond]

def HasPlainYear (t : DateTime) : Prop := 0 ≤ t.year ∧ t.year ≤ 9999

variable {a b : DateTime}

theorem HasPlainYear.natAbs_year (h : a.HasPlainYear) : (a.year.natAbs : Int) = a.year :=
  Int.natAbs_of_nonneg h.1

theorem dayOfYear_lt_iff (hyear : a.year = b.year) :
    a.dayOfYear < b.dayOfYear ↔ a.month < b.month ∨ a.month = b.month ∧ a.day < b.day := by
  obtain ⟨-, -, hday, hmonth, -⟩ := a.valid
  obtain ⟨-, -, hday', hmonth', -⟩ := b.valid
  rw [← hyear] at hmonth'
  rw [dayOfYear, dayOfYear, ← hyear]
  exact daysBefore_add_lt_iff ⟨hday, hmonth⟩ ⟨hday', hmonth'⟩

theorem dayOfYear_eq_iff (hyear : a.year = b.year) :
    a.dayOfYear = b.dayOfYear ↔ a.month = b.month ∧ a.day = b.day := by
  have hlt := dayOfYear_lt_iff hyear
  have hgt := dayOfYear_lt_iff hyear.symm
  omega

/-- Within a day the shown hour, minute and second are ordered as the seconds, leap seconds
included. -/
theorem clock_lt_iff (ha : a.LeapShowsSixty) (hb : b.LeapShowsSixty) :
    (a.hour < b.hour ∨ a.hour = b.hour ∧ (a.minute < b.minute ∨
      a.minute = b.minute ∧ a.shownSecond < b.shownSecond)) ↔
    a.secondOfDay < b.secondOfDay ∨
      a.secondOfDay = b.secondOfDay ∧ a.nano / 1000000000 < b.nano / 1000000000 := by
  obtain ⟨-, -, -, -, -, hminute, hsecond, hnano⟩ := a.valid
  obtain ⟨-, -, -, -, -, hminute', hsecond', hnano'⟩ := b.valid
  have hleap := ha.second_eq
  have hleap' := hb.second_eq
  rw [shownSecond, shownSecond, secondOfDay, secondOfDay]
  omega

theorem shown_lt_shown_iff (ha : a.HasPlainYear) (hb : b.HasPlainYear)
    (hleap : a.LeapShowsSixty) (hleap' : b.LeapShowsSixty) :
    a.shown < b.shown ↔ a.wholeSecond < b.wholeSecond := by
  have hlt : a.year.natAbs < b.year.natAbs ↔ a.year < b.year := by
    rw [← Int.ofNat_lt, ha.natAbs_year, hb.natAbs_year]
  have heq : a.year.natAbs = b.year.natAbs ↔ a.year = b.year := by
    rw [← Int.ofNat_inj, ha.natAbs_year, hb.natAbs_year]
  have hcast : ∀ n : Nat, (n : Int) / 1000000000 = (n / 1000000000 : Nat) := fun _ => rfl
  simp only [shown, wholeSecond, List.cons_lt_cons_iff, List.not_lt_nil, and_false, or_false, hlt,
    heq, hcast, Int.ofNat_lt, Int.ofNat_inj]
  refine or_congr Iff.rfl (and_congr_right fun hyear => ?_)
  rw [clock_lt_iff hleap hleap', dayOfYear_lt_iff hyear, dayOfYear_eq_iff hyear, or_assoc, and_assoc,
    and_or_left]

/-! The literal. -/

def secondFields : List FixedField :=
  [⟨4, ['-'], by decide⟩, ⟨2, ['-'], by decide⟩, ⟨2, [' '], by decide⟩, ⟨2, [':'], by decide⟩,
    ⟨2, [':'], by decide⟩, ⟨2, ['\''], by decide⟩]

theorem fits_shown (ha : a.HasPlainYear) : List.Forall₂ FixedField.Fits secondFields a.shown := by
  obtain ⟨hmonth, hday, hhour, hminute, hsecond⟩ := a.fields_lt
  have hyear : a.year.natAbs < 10000 := by
    rw [← Int.ofNat_lt, ha.natAbs_year]
    exact Int.lt_add_one_of_le ha.2
  exact .cons hyear (.cons hmonth (.cons hday (.cons hhour (.cons hminute (.cons hsecond .nil)))))

theorem toList_literal (ha : a.HasPlainYear) :
    (Value.dateTime a).literal.toList = '\'' :: stamp secondFields a.shown := by
  have hyear : yearText a.year = padded 4 a.year.natAbs := if_pos ha
  simp [Value.literal, singleQuoted, toSecondText, dateText, clockText, hyear, secondFields, shown,
    stamp]

theorem isAscii_literal (ha : a.HasPlainYear) :
    Text.IsAscii (Value.dateTime a).literal.toList := by
  rw [toList_literal ha]
  rintro c (_ | ⟨_, hc⟩)
  · decide
  · rcases isDigit_or_mem_mark_of_mem_stamp hc with hdigit | ⟨field, hfield, hmark⟩
    · have hrange := (Char.isDigit_iff_toNat.1 hdigit).2
      have hnine : '9'.toNat = 57 := rfl
      omega
    · have hmarks : (secondFields.all fun field => field.mark.all (·.toNat < 128)) = true := rfl
      have hascii := List.all_eq_true.1 (List.all_eq_true.1 hmarks field hfield) c hmark
      exact of_decide_eq_true hascii

theorem bytes_literal_lt_iff (ha : a.HasPlainYear) (hb : b.HasPlainYear)
    (hleap : a.LeapShowsSixty) (hleap' : b.LeapShowsSixty) :
    Text.bytes (Value.dateTime a).literal < Text.bytes (Value.dateTime b).literal ↔
      a.wholeSecond < b.wholeSecond := by
  rw [Text.bytes_lt_bytes_iff (isAscii_literal ha) (isAscii_literal hb), toList_literal ha,
    toList_literal hb, List.cons_lt_cons_self, stamp_lt_stamp_iff (fits_shown ha) (fits_shown hb),
    shown_lt_shown_iff ha hb hleap hleap']

theorem atMost_wholeSecond (h : a ≤ b) : AtMost a.wholeSecond b.wholeSecond := by
  have hsplit : ∀ m n : Int, [b.year, b.dayOfYear, b.secondOfDay] ++ [m] <
      [a.year, a.dayOfYear, a.secondOfDay] ++ [n] ↔ _ := fun _ _ => append_lt_append_iff rfl
  have hlast : ∀ {m n : Int}, [m] < [n] ↔ m < n := by
    intro m n
    rw [List.cons_lt_cons_iff]
    exact or_iff_left fun h => absurd h.2 (List.not_lt_nil _)
  intro hlt
  refine h ((hsplit b.nano a.nano).2 ?_)
  rcases (hsplit (b.nano / 1000000000) (a.nano / 1000000000)).1 hlt with hfront | ⟨hfront, hnano⟩
  · exact .inl hfront
  · rw [hlast] at hnano
    exact .inr ⟨hfront, hlast.2 (by omega)⟩

/-- The literals of date-times with years of four digits are in order, byte by byte, if the
date-times are; they are equal exactly if the date-times fall in one second; and comparing them is
comparing the seconds. -/
theorem bytes_literal_atMost (ha : a.HasPlainYear) (hb : b.HasPlainYear)
    (hleap : a.LeapShowsSixty) (hleap' : b.LeapShowsSixty) :
    (a ≤ b →
        AtMost (Text.bytes (Value.dateTime a).literal) (Text.bytes (Value.dateTime b).literal)) ∧
      ((Value.dateTime a).literal = (Value.dateTime b).literal ↔ a.wholeSecond = b.wholeSecond) ∧
      (AtMost (Text.bytes (Value.dateTime a).literal) (Text.bytes (Value.dateTime b).literal) ↔
        AtMost a.wholeSecond b.wholeSecond) := by
  have hle : AtMost (Text.bytes (Value.dateTime a).literal)
      (Text.bytes (Value.dateTime b).literal) ↔ AtMost a.wholeSecond b.wholeSecond :=
    not_congr (bytes_literal_lt_iff hb ha hleap' hleap)
  have hge : AtMost (Text.bytes (Value.dateTime b).literal)
      (Text.bytes (Value.dateTime a).literal) ↔ AtMost b.wholeSecond a.wholeSecond :=
    not_congr (bytes_literal_lt_iff ha hb hleap hleap')
  refine ⟨fun h => hle.2 (atMost_wholeSecond h), ?_, hle⟩
  rw [← Text.bytes_inj, eq_iff_atMost, eq_iff_atMost, hle, hge]

/-- A leap second is a second of its own, at the end of its day. -/
theorem bytes_literal_atMost_leap :
    HasPlainYear ⟨2016, 12, 31, 23, 59, 59, 1500000000, by decide⟩ ∧
      HasPlainYear ⟨2017, 1, 1, 0, 0, 0, 0, by decide⟩ ∧
      LeapShowsSixty ⟨2016, 12, 31, 23, 59, 59, 1500000000, by decide⟩ ∧
      LeapShowsSixty ⟨2017, 1, 1, 0, 0, 0, 0, by decide⟩ ∧
      AtMost (Text.bytes "'2016-12-31 23:59:60'") (Text.bytes "'2017-01-01 00:00:00'") ∧
      "'2016-12-31 23:59:60'" ≠ "'2017-01-01 00:00:00'" := by
  have hleap : HasPlainYear ⟨2016, 12, 31, 23, 59, 59, 1500000000, by decide⟩ := by
    constructor <;> decide
  have hnext : HasPlainYear ⟨2017, 1, 1, 0, 0, 0, 0, by decide⟩ := by constructor <;> decide
  have hsixty : LeapShowsSixty ⟨2016, 12, 31, 23, 59, 59, 1500000000, by decide⟩ := by decide
  have hnone : LeapShowsSixty ⟨2017, 1, 1, 0, 0, 0, 0, by decide⟩ := by decide
  have hmoment : ¬ ([2017, 1, 0, 0] : List Int) < [2016, 366, 86399, 1500000000] := by decide
  obtain ⟨hle, heq, -⟩ := bytes_literal_atMost hleap hnext hsixty hnone
  exact ⟨hleap, hnext, hsixty, hnone, hle hmoment, fun h => absurd (heq.1 h) (by decide)⟩

end DateTime

end FluentQuery
