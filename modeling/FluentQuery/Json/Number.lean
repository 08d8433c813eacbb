import FluentQuery.Json.Basic
import FluentQuery.Number.Decimal

/-!
Numbers in JSON texts. A numeral of digits alone is an exact integer where the range holds it. Any
other is taken apart into a significand of 64 bits, past which further digits are dropped, and a
power of ten; the two are multiplied or divided in the format of 64 bits, so that the last bit is
not always that of the nearest number.
-/
namespace FluentQuery.Json

def fractionPart : List Char → List Char
  | '.' :: after =>
    let run := after.takeWhile Char.isDigit
    if run.isEmpty then [] else '.' :: run
  | _ => []

/-- The part of a number after its whole digits: a fraction and an exponent, each optional. -/
def numberTail (cs : List Char) : List Char :=
  let fraction := fractionPart cs
  let rest := cs.drop fraction.length
  match Decimal.takeExponent rest with
  | some (_, after) => fraction ++ rest.take (rest.length - after.length)
  | none => fraction

def splitMinus : List Char → List Char × List Char
  | '-' :: rest => (['-'], rest)
  | cs => ([], cs)

/-- The whole digits of a number; a zero in front stands alone. -/
def wholePart : List Char → List Char
  | '0' :: _ => ['0']
  | cs => cs.takeWhile Char.isDigit

/-- The integer of a numeral of digits alone, if the exact range holds it. Minus zero is none. -/
def exactNumber? (sign whole tail : List Char) : Option Json :=
  let magnitude : Int := Nat.ofDigitChars 10 whole 0
  if !tail.isEmpty then none
  else if sign.isEmpty then integer? magnitude
  else if magnitude = 0 then none
  else integer? (-magnitude)

/-- The significand with these digits after it, as long as 64 bits hold it, and the digits that are
left over. -/
def significandFrom (significand : Nat) : List Char → Nat × List Char
  | [] => (significand, [])
  | c :: cs =>
    let next := 10 * significand + (c.toNat - '0'.toNat)
    if next < 18446744073709551616 then significandFrom next cs else (significand, c :: cs)

def rankOfNat (n : Nat) : Nat :=
  FloatFormat.double.nearestRank (n * Nat.pow 2 FloatFormat.double.scale) 1

def timesPowerOfTen (rank exponent : Nat) : Nat :=
  FloatFormat.double.nearestRank
    (FloatFormat.double.units rank * FloatFormat.double.units (rankOfNat (Nat.pow 10 exponent)))
    (Nat.pow 2 FloatFormat.double.scale)

def byPowerOfTen (rank exponent : Nat) : Nat :=
  FloatFormat.double.nearestRank
    (FloatFormat.double.units rank * Nat.pow 2 FloatFormat.double.scale)
    (FloatFormat.double.units (rankOfNat (Nat.pow 10 exponent)))

/-- The exponent of the greatest power of ten in the format. -/
def mostPower : Nat := 308

/-- Divides by the greatest power of ten some times, and then by another one. -/
def byPowersOfTen (rank : Nat) : Nat → Nat → Nat
  | 0, exponent => byPowerOfTen rank exponent
  | times + 1, exponent =>
    if rank = 0 then 0 else byPowersOfTen (byPowerOfTen rank mostPower) times exponent

/-- The rank of a significand times a power of ten. Zero has any power. -/
def scaledRank? (significand : Nat) (exponent : Int) : Option Nat :=
  let rank := rankOfNat significand
  let size := exponent.natAbs
  if exponent < 0 then
    some (byPowersOfTen rank ((size - 1) / mostPower) ((size - 1) % mostPower + 1))
  else if size ≤ mostPower then some (timesPowerOfTen rank size)
  else if rank = 0 then some 0
  else none

/-- The number of a numeral that has a fraction, an exponent or more digits than the exact range,
if it is in the finite range. -/
def approximate? (sign whole tail : List Char) : Option (Finite FloatFormat.double) :=
  let (fraction, rest) := Decimal.takeFraction tail
  let exponent := ((Decimal.takeExponent rest).map Prod.fst).getD 0
  let (significand, beyond) := significandFrom 0 whole
  let (significand, dropped) := significandFrom significand fraction
  match scaledRank? significand (exponent + beyond.length - (fraction.length - dropped.length)) with
  | some rank => if h : rank < FloatFormat.double.count then some ⟨!sign.isEmpty, rank, h⟩ else none
  | none => none

def number? (cs : List Char) : Option (Json × Nat) :=
  let (sign, unsigned) := splitMinus cs
  let whole := wholePart unsigned
  if whole.isEmpty then none
  else
    let tail := numberTail (unsigned.drop whole.length)
    let length := sign.length + whole.length + tail.length
    match exactNumber? sign whole tail with
    | some j => some (j, length)
    | none => (approximate? sign whole tail).map fun x => (.float x, length)

end FluentQuery.Json
