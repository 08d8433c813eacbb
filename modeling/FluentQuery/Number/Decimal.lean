import FluentQuery.Number.Binary

/-!
Decimal numerals: a sign, a coefficient and a power of ten; their reading from text, and the
binary number nearest to one.
-/
namespace FluentQuery

/-- The number `± coefficient * 10 ^ exponent`. -/
structure Decimal where
  negative : Bool
  coefficient : Nat
  exponent : Int
deriving DecidableEq, Repr

namespace Decimal

/-- The number of decimal digits; zero has one. -/
def width (n : Nat) : Nat := (Nat.toDigits 10 n).length

def ofDigits (negative : Bool) (whole fraction : List Char) (exponent : Int) : Decimal :=
  ⟨negative, Nat.ofDigitChars 10 (whole ++ fraction) 0, exponent - fraction.length⟩

/-- The nearest number of a format. Numerals that are far beyond the format's range on either
side are not expanded. -/
def toBinary (f : FloatFormat) (d : Decimal) : Binary f :=
  let reach : Int := f.binades + f.scale
  let top : Int := width d.coefficient + d.exponent
  if d.coefficient = 0 then .finite (.zero f d.negative)
  else if reach < top then .infinite d.negative
  else if top < -reach then .finite (.zero f d.negative)
  else if 0 ≤ d.exponent then
    .ofFraction f d.negative (d.coefficient * Nat.pow 10 d.exponent.toNat) 1
  else .ofFraction f d.negative d.coefficient (Nat.pow 10 d.exponent.natAbs)

def takeSign : List Char → Bool × List Char
  | '-' :: cs => (true, cs)
  | '+' :: cs => (false, cs)
  | cs => (false, cs)

def takeExponent (cs : List Char) : Option (Int × List Char) :=
  match cs with
  | c :: cs =>
    if c = 'e' || c = 'E' then
      let (negative, digits) := takeSign cs
      let (run, rest) := digits.span Char.isDigit
      if run.isEmpty then none
      else
        let n : Int := Nat.ofDigitChars 10 run 0
        some (if negative then -n else n, rest)
    else none
  | [] => none

def takeFraction : List Char → List Char × List Char
  | '.' :: after => after.span Char.isDigit
  | cs => ([], cs)

/-- A numeral without a sign at the front of the text, and what follows it. It has a digit before
or after its point; both the point and the exponent may be missing. -/
def takeUnsigned (negative : Bool) (cs : List Char) : Option (Decimal × List Char) :=
  let (whole, rest) := cs.span Char.isDigit
  let (fraction, rest) := takeFraction rest
  if whole.isEmpty && fraction.isEmpty then none
  else match takeExponent rest with
    | some (exponent, rest) => some (ofDigits negative whole fraction exponent, rest)
    | none => some (ofDigits negative whole fraction 0, rest)

/-- The numeral that the whole text is, with an optional sign. -/
def ofChars? (cs : List Char) : Option Decimal :=
  let (negative, unsigned) := takeSign cs
  match takeUnsigned negative unsigned with
  | some (d, []) => some d
  | _ => none

end Decimal

/-- The number that a text names: a numeral, or `nan`, `inf` or `infinity` in any case, the
latter two with an optional sign. -/
def Binary.ofText? (f : FloatFormat) (s : String) : Option (Binary f) :=
  match Decimal.ofChars? s.toList with
  | some d => some (d.toBinary f)
  | none =>
    let (negative, rest) := Decimal.takeSign s.toList
    let word := String.ofList (rest.map Char.toLower)
    if word = "inf" || word = "infinity" then some (.infinite negative)
    else if word = "nan" then some .nan
    else none

end FluentQuery
