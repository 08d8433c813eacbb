import FluentQuery.Proofs.DateTimeText
import FluentQuery.Proofs.Widening
import FluentQuery.Value.Tagged

/-!
Values and their tagged forms. Main statement: a value is read back from its tagged form, case by
case at every depth, if all its numbers are finite, with its date-times as their texts show them;
otherwise its tagged form has no value.
-/
namespace FluentQuery

def Binary.isFinite {f : FloatFormat} : Binary f → Bool
  | .finite _ => true
  | _ => false

theorem int64?_toInt (n : Int64) : int64? n.toInt = some n := by
  rw [int64?, if_pos ⟨n.le_toInt, n.toInt_lt⟩, Int64.ofInt_toInt]

theorem int32?_toInt64 (n : Int32) : int32? n.toInt64.toInt = some n := by
  rw [Int32.toInt_toInt64, int32?, if_pos ⟨n.le_toInt, n.toInt_lt⟩, Int32.ofInt_toInt]

namespace Value

mutual

def isFinite : Value → Bool
  | .float32 x => x.isFinite
  | .float64 x => x.isFinite
  | .array items => allFinite items
  | _ => true

def allFinite : List Value → Bool
  | [] => true
  | item :: items => item.isFinite && allFinite items

end

mutual

/-- Whether every leap second in it, at any depth, is the last one of its minute. -/
def leapsShowSixty : Value → Bool
  | .dateTime t => decide t.LeapShowsSixty
  | .array items => allLeapsShowSixty items
  | _ => true

def allLeapsShowSixty : List Value → Bool
  | [] => true
  | item :: items => item.leapsShowSixty && allLeapsShowSixty items

end

mutual

/-- The value with each date-time in it, at any depth, as its text shows it. -/
def asShown : Value → Value
  | .dateTime t => .dateTime t.asShown
  | .array items => .array (allAsShown items)
  | v => v

def allAsShown : List Value → List Value
  | [] => []
  | item :: items => item.asShown :: allAsShown items

end

mutual

theorem asShown_eq_self_iff : ∀ v : Value, v.asShown = v ↔ v.leapsShowSixty = true
  | .null | .bool _ | .int32 _ | .int64 _ | .float32 _ | .float64 _ | .string _ | .json _ =>
    iff_of_true rfl rfl
  | .array items => by
    rw [asShown, leapsShowSixty, array.injEq]
    exact allAsShown_eq_self_iff items
  | .dateTime t => by
    rw [asShown, leapsShowSixty, dateTime.injEq, decide_eq_true_eq]
    exact DateTime.asShown_eq_self_iff

theorem allAsShown_eq_self_iff : ∀ items : List Value,
    allAsShown items = items ↔ allLeapsShowSixty items = true
  | [] => iff_of_true rfl rfl
  | item :: items => by
    rw [allAsShown, allLeapsShowSixty, List.cons.injEq, Bool.and_eq_true]
    exact and_congr (asShown_eq_self_iff item) (allAsShown_eq_self_iff items)

end

theorem double?_ofDouble (x : Double) :
    double? (.ofDouble x) = if x.isFinite then some x else none := by
  cases x <;> rfl

theorem single?_ofDouble (x : Single) :
    single? (.ofDouble (x.convert .double)) = if x.isFinite then some x else none := by
  cases x with
  | nan => rfl
  | infinite negative => rfl
  | finite x =>
    obtain ⟨y, hwide, hback⟩ := Binary.convert_of_widens FloatFormat.single_widens_double x
    rw [hwide]
    exact congrArg some hback

mutual

/-- The tagged form of a value is read as the value that it shows, unless a number in it is not
finite. -/
theorem ofTagged?_toTagged : ∀ v : Value,
    ofTagged? v.toTagged = if v.isFinite then some v.asShown else none
  | .null => rfl
  | .bool _ => rfl
  | .int32 n => by simp only [toTagged, tagged, Json.ofInt64, ofTagged?, int32?_toInt64]; rfl
  | .int64 n => by simp only [toTagged, tagged, Json.ofInt64, ofTagged?, int64?_toInt]; rfl
  | .float32 x => by
    simp only [toTagged, tagged, ofTagged?, single?_ofDouble, apply_ite (Option.map Value.float32)]
    rfl
  | .float64 x => by
    simp only [toTagged, tagged, ofTagged?, double?_ofDouble, apply_ite (Option.map Value.float64)]
    rfl
  | .string _ => rfl
  | .json _ => rfl
  | .array items => by
    simp only [toTagged, tagged, ofTagged?, ofTaggedList?_toTaggedList items,
      apply_ite (Option.map Value.array)]
    rfl
  | .dateTime t => by simp only [toTagged, tagged, ofTagged?, t.ofText?_isoText]; rfl

theorem ofTaggedList?_toTaggedList : ∀ items : List Value,
    ofTaggedList? (toTaggedList items) = if allFinite items then some (allAsShown items) else none
  | [] => rfl
  | item :: items => by
    rw [toTaggedList, ofTaggedList?, ofTagged?_toTagged item, ofTaggedList?_toTaggedList items,
      allFinite]
    cases item.isFinite <;> cases allFinite items <;> rfl

end

/-- A value whose numbers are all finite is read back from its tagged form as the form shows it,
which is the value itself just where each of its leap seconds is the last second of a minute; no
other value has a tagged form that can be read. -/
theorem read_toTagged (v : Value) :
    (v.isFinite = true → ofTagged? v.toTagged = some v.asShown ∧
      (ofTagged? v.toTagged = some v ↔ v.leapsShowSixty = true)) ∧
      (v.isFinite = false → ofTagged? v.toTagged = none) := by
  have hread := ofTagged?_toTagged v
  constructor
  · intro h
    rw [if_pos h] at hread
    refine ⟨hread, ?_⟩
    rw [hread, Option.some.injEq]
    exact asShown_eq_self_iff v
  · intro h
    rw [hread, h]
    rfl

/-- A negative number of the least magnitude, a null that is JSON, a text that names a date-time and
a leap second before the common era are kept; what is no number is not, at any depth. -/
theorem read_toTagged_nested :
    let value : Value := .array [.int32 7, .float32 (.finite ⟨true, 1, by decide⟩), .json .null,
      .array [.string "2016-12-31T23:59:60", .dateTime ⟨-44, 6, 30, 23, 59, 59, 1500000000,
        by decide⟩]]
    let other : Value := .array [.null, .array [.float64 .nan]]
    (value.isFinite = true ∧ value.leapsShowSixty = true ∧
        ofTagged? value.toTagged = some value) ∧
      other.isFinite = false ∧ ofTagged? other.toTagged = none := by
  intro value other
  have hfinite : value.isFinite = true := by decide
  have hleap : value.leapsShowSixty = true := by decide
  have hnan : other.isFinite = false := by decide
  exact ⟨⟨hfinite, hleap, ((read_toTagged value).1 hfinite).2.2 hleap⟩, hnan,
    (read_toTagged other).2 hnan⟩

/-- A leap second in the middle of a minute comes back as the second after it. -/
theorem read_leapWithinMinute :
    let leap : DateTime := ⟨2024, 1, 15, 20, 19, 23, 1500000000, by decide⟩
    let next : DateTime := ⟨2024, 1, 15, 20, 19, 24, 500000000, by decide⟩
    isFinite (.dateTime leap) = true ∧
      toTagged (.dateTime leap) = tagged "DateTime" (.str "2024-01-15T20:19:24.500") ∧
      ofTagged? (toTagged (.dateTime leap)) = some (.dateTime next) ∧
      Value.dateTime next ≠ .dateTime leap := by
  intro leap next
  have htext : leap.isoText = "2024-01-15T20:19:24.500" := by decide +kernel
  have hshown : leap.asShown = next := by decide +kernel
  have hne : next ≠ leap := by decide
  refine ⟨rfl, congrArg (fun text => tagged "DateTime" (.str text)) htext, ?_,
    fun h => hne (dateTime.inj h)⟩
  rw [ofTagged?_toTagged]
  exact congrArg (fun t => some (dateTime t)) hshown

end Value

end FluentQuery
