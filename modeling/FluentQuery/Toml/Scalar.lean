import FluentQuery.Calendar
import FluentQuery.Document
import FluentQuery.Toml.Text

/-!
Scalars of TOML documents other than strings: truth values, integers, floating-point numbers,
dates and times.
-/
namespace FluentQuery.Toml

/-- The digits of a run in which single underscores may stand between two digits. -/
def ungrouped? (isDigit : Char → Bool) (cs : List Char) : Option (List Char) :=
  let groups := Text.splitAll '_' cs
  if groups.all fun group => !group.isEmpty && group.all isDigit then some groups.flatten
  else none

/-- The number of a run of digits in a base. -/
def based? (base : Nat) (isDigit : Char → Bool) (cs : List Char) : Option Int := do
  let digits ← ungrouped? isDigit cs
  let n ← digits.foldlM (fun n c => (Text.hexDigit? c).map (n * base + ·)) 0
  some (n : Int)

/-- Digits without a superfluous zero at the front. -/
def plainDigits? (cs : List Char) : Option (List Char) := do
  let digits ← ungrouped? Char.isDigit cs
  match digits with
  | '0' :: _ :: _ => none
  | _ => some digits

def integer? (cs : List Char) : Option Int :=
  match cs with
  | '0' :: 'x' :: digits => based? 16 (fun c => (Text.hexDigit? c).isSome) digits
  | '0' :: 'o' :: digits => based? 8 (fun c => '0' ≤ c && c ≤ '7') digits
  | '0' :: 'b' :: digits => based? 2 (fun c => c = '0' || c = '1') digits
  | '-' :: digits => (plainDigits? digits).map fun digits => -(Nat.ofDigitChars 10 digits 0 : Int)
  | '+' :: digits => (plainDigits? digits).map fun digits => (Nat.ofDigitChars 10 digits 0 : Int)
  | digits => (plainDigits? digits).map fun digits => (Nat.ofDigitChars 10 digits 0 : Int)

def isExponent (cs : List Char) : Bool :=
  let digits := match cs with
    | '-' :: rest => rest
    | '+' :: rest => rest
    | rest => rest
  (ungrouped? Char.isDigit digits).isSome

def isFloat (cs : List Char) : Bool :=
  let unsigned := match cs with
    | '-' :: rest => rest
    | '+' :: rest => rest
    | rest => rest
  if unsigned = "inf".toList || unsigned = "nan".toList then true
  else
    let lowered := unsigned.map Char.toLower
    let (mantissa, exponent) := match Text.splitFirst ['e'] lowered with
      | some (mantissa, exponent) => (mantissa, some exponent)
      | none => (lowered, none)
    let fraction := Text.splitFirst ['.'] mantissa
    let mantissaFits := match fraction with
      | some (whole, fraction) =>
        (plainDigits? whole).isSome && (ungrouped? Char.isDigit fraction).isSome
      | none => (plainDigits? mantissa).isSome
    mantissaFits && (exponent.map isExponent).getD fraction.isSome

def twoDigits? (cs : List Char) : Option Nat :=
  match cs with
  | [a, b] => if a.isDigit && b.isDigit then some (Nat.ofDigitChars 10 cs 0) else none
  | _ => none

/-- Whether the text is a time of day; its seconds may be missing, and may have a fraction. -/
def isTime (cs : List Char) : Bool :=
  match (Text.splitAll ':' cs).map fun part => (part.take 2, part.drop 2) with
  | [(h, []), (m, [])] => fits h 23 && fits m 59
  | [(h, []), (m, []), (s, fraction)] => fits h 23 && fits m 59 && fits s 60 &&
      match fraction with
      | [] => true
      | '.' :: digits => !digits.isEmpty && digits.all Char.isDigit
      | _ => false
  | _ => false
where
  fits (part : List Char) (most : Nat) : Bool :=
    match twoDigits? part with
    | some n => n ≤ most
    | none => false

def isDate (cs : List Char) : Bool :=
  match Text.splitAll '-' cs with
  | [year, month, day] =>
    let date := do
      let month ← twoDigits? month
      let day ← twoDigits? day
      if year.length = 4 && year.all Char.isDigit then
        some (1 ≤ day && day ≤ daysOfMonth (Nat.ofDigitChars 10 year 0 : Int) month)
      else none
    date.getD false
  | _ => false

/-- A time of day without the offset after it, which is the letter Z or a signed time. -/
def withoutOffset (cs : List Char) : Option (List Char) :=
  match cs.getLast? with
  | some 'Z' => some cs.dropLast
  | some 'z' => some cs.dropLast
  | _ =>
    match Text.splitFirst ['+'] cs, Text.splitFirst ['-'] cs with
    | some (time, offset), _ => if offset.length = 5 && isTime offset then some time else none
    | none, some (time, offset) => if offset.length = 5 && isTime offset then some time else none
    | none, none => some cs

/-- Whether the text is a date, a time, or both with an optional offset. -/
def isDateTime (cs : List Char) : Bool :=
  if isTime cs || isDate cs then true
  else
    let mark := cs.drop 10
    isDate (cs.take 10) && match mark with
      | c :: time => (c = 'T' || c = 't' || c = ' ') && ((withoutOffset time).map isTime).getD false
      | [] => false

def isScalar (c : Char) : Bool :=
  c.isAlphanum || c = '_' || c = '+' || c = '-' || c = '.' || c = ':'

/-- The text of the scalar at the front, and what follows it. A blank may stand between a date and
its time. -/
def takeScalarText (cs : List Char) : List Char × List Char :=
  let (first, rest) := cs.span isScalar
  match rest with
  | ' ' :: d :: after =>
    if isDate first && d.isDigit then
      let (second, rest) := (d :: after).span isScalar
      (first ++ ' ' :: second, rest)
    else (first, rest)
  | _ => (first, rest)

/-- The key under which a date or a time stands in a document. -/
def dateTimeKey : String := "$__toml_private_datetime"

def scalar? (cs : List Char) : Option Document :=
  if cs = "true".toList then some (.bool true)
  else if cs = "false".toList then some (.bool false)
  else match integer? cs with
    | some n => some (.int n)
    | none =>
      if isFloat cs then some .float
      else if isDateTime cs then some (.table [(dateTimeKey, .text (String.ofList cs))])
      else none

end FluentQuery.Toml
