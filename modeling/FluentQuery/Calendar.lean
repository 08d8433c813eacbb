import FluentQuery.Number.Integer
import FluentQuery.Text.Blank
import FluentQuery.Text.Scan

/-!
Dates with a time of day in the proleptic Gregorian calendar, to the nanosecond. A leap second is
kept as the second before it, with a full second of nanoseconds more.
-/
namespace FluentQuery

def isLeapYear (year : Int) : Bool :=
  year % 4 = 0 && (year % 100 ≠ 0 || year % 400 = 0)

/-- The days of a month, none for what is no month. -/
def daysOfMonth (year : Int) (month : Nat) : Nat :=
  match month with
  | 2 => if isLeapYear year then 29 else 28
  | 4 | 6 | 9 | 11 => 30
  | 1 | 3 | 5 | 7 | 8 | 10 | 12 => 31
  | _ => 0

theorem daysOfMonth_le (year : Int) (month : Nat) : daysOfMonth year month ≤ 31 := by
  unfold daysOfMonth
  split
  · split <;> decide
  all_goals decide

theorem month_le_of_daysOfMonth_pos {year : Int} {month : Nat} (h : 0 < daysOfMonth year month) :
    month ≤ 12 := by
  unfold daysOfMonth at h
  split at h <;> first | decide | cases h

def DateTime.Valid (year : Int) (month day hour minute second nano : Nat) : Prop :=
  -262143 ≤ year ∧ year ≤ 262142 ∧ 1 ≤ day ∧ day ≤ daysOfMonth year month ∧
    hour < 24 ∧ minute < 60 ∧ second < 60 ∧ nano < 2000000000

instance (year : Int) (month day hour minute second nano : Nat) :
    Decidable (DateTime.Valid year month day hour minute second nano) := by
  unfold DateTime.Valid; infer_instance

structure DateTime where
  year : Int
  month : Nat
  day : Nat
  hour : Nat
  minute : Nat
  second : Nat
  nano : Nat
  valid : DateTime.Valid year month day hour minute second nano
deriving DecidableEq, Repr

namespace DateTime

/-- The date-time with these fields, if there is one; only second 59 is given a leap second. -/
def of? (year : Int) (month day hour minute second nano : Nat) : Option DateTime :=
  if h : Valid year month day hour minute second nano then
    if 1000000000 ≤ nano ∧ second ≠ 59 then none
    else some ⟨year, month, day, hour, minute, second, nano, h⟩
  else none

instance : Inhabited DateTime := ⟨⟨1970, 1, 1, 0, 0, 0, 0, by decide⟩⟩

/-- The second as clocks show it, one more in a leap second. -/
def shownSecond (t : DateTime) : Nat := t.second + t.nano / 1000000000

/-- A leap second is second 60, the last one of its minute. -/
def LeapShowsSixty (t : DateTime) : Prop := 1000000000 ≤ t.nano → t.shownSecond = 60

instance (t : DateTime) : Decidable t.LeapShowsSixty :=
  inferInstanceAs (Decidable (1000000000 ≤ t.nano → t.shownSecond = 60))

theorem LeapShowsSixty.second_eq {t : DateTime} (h : t.LeapShowsSixty)
    (hnano : 1000000000 ≤ t.nano) : t.second = 59 := by
  obtain ⟨-, -, -, -, -, -, -, hmost⟩ := t.valid
  have hshown : t.second + t.nano / 1000000000 = 60 := h hnano
  omega

theorem fields_lt (t : DateTime) :
    t.month < 100 ∧ t.day < 100 ∧ t.hour < 100 ∧ t.minute < 100 ∧ t.shownSecond < 100 := by
  obtain ⟨-, -, hday, hmonth, hhour, hminute, hsecond, hnano⟩ := t.valid
  have hmonthOfYear := month_le_of_daysOfMonth_pos (Nat.lt_of_lt_of_le hday hmonth)
  have hdays := daysOfMonth_le t.year t.month
  rw [shownSecond]
  omega

/-- The year with at least four digits; outside 0 to 9999 its sign is shown. -/
def yearText (year : Int) : String :=
  if 0 ≤ year ∧ year ≤ 9999 then padded 4 year.natAbs
  else (if year < 0 then "-" else "+") ++ padded 4 year.natAbs

def dateText (t : DateTime) : String :=
  yearText t.year ++ "-" ++ padded 2 t.month ++ "-" ++ padded 2 t.day

def clockText (t : DateTime) : String :=
  padded 2 t.hour ++ ":" ++ padded 2 t.minute ++ ":" ++ padded 2 t.shownSecond

/-- The part of the second with as many digits as it needs of 3, 6 and 9, or nothing. -/
def fractionText (t : DateTime) : String :=
  let nano := t.nano % 1000000000
  if nano = 0 then ""
  else if nano % 1000000 = 0 then "." ++ padded 3 (nano / 1000000)
  else if nano % 1000 = 0 then "." ++ padded 6 (nano / 1000)
  else "." ++ padded 9 nano

def toSecondText (t : DateTime) : String := t.dateText ++ " " ++ t.clockText

/-- The exact text, with the letter T between date and time. -/
def isoText (t : DateTime) : String := t.dateText ++ "T" ++ t.clockText ++ t.fractionText

/-- A run of digits, at least one and at most `most` of them. -/
def takeDigits (most : Nat) (cs : List Char) : Option (Nat × List Char) :=
  let run := (cs.takeWhile Char.isDigit).take most
  if run.isEmpty then none else some (Nat.ofDigitChars 10 run 0, cs.drop run.length)

def takeField (most : Nat) (cs : List Char) : Option (Nat × List Char) :=
  takeDigits most (Text.trimFront cs)

/-- A year after optional blanks: four digits at most, or any number of them after a sign. -/
def takeYear (cs : List Char) : Option (Int × List Char) :=
  match Text.trimFront cs with
  | '-' :: rest => (takeDigits rest.length rest).map fun (n, rest) => (-(n : Int), rest)
  | '+' :: rest => (takeDigits rest.length rest).map fun (n, rest) => ((n : Int), rest)
  | rest => (takeDigits 4 rest).map fun (n, rest) => ((n : Int), rest)

def takeMark (mark : Char) (cs : List Char) : Option (List Char) :=
  Text.afterLead [mark] (Text.trimFront cs)

/-- The nanoseconds of a fraction; digits after the ninth are passed over. -/
def takeFraction : List Char → Option (Nat × List Char)
  | '.' :: cs =>
    let run := cs.takeWhile Char.isDigit
    if run.isEmpty then none
    else
      let nine := (run ++ List.replicate (9 - run.length) '0').take 9
      some (Nat.ofDigitChars 10 nine 0, cs.drop run.length)
  | cs => some (0, cs)

/-- The date-time that a text names: the exact text, with blanks allowed before each number and
each mark, and at the end. Second 60 is the leap second after 59. -/
def ofText? (s : String) : Option DateTime := do
  let (year, cs) ← takeYear s.toList
  let cs ← takeMark '-' cs
  let (month, cs) ← takeField 2 cs
  let cs ← takeMark '-' cs
  let (day, cs) ← takeField 2 cs
  let cs ← takeMark 'T' cs
  let (hour, cs) ← takeField 2 cs
  let cs ← takeMark ':' cs
  let (minute, cs) ← takeField 2 cs
  let cs ← takeMark ':' cs
  let (second, cs) ← takeField 2 cs
  let (nano, cs) ← takeFraction cs
  if (Text.trimFront cs).isEmpty then
    if second = 60 then of? year month day hour minute 59 (nano + 1000000000)
    else of? year month day hour minute second nano
  else none

end DateTime

end FluentQuery
