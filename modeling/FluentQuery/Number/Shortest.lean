import FluentQuery.Number.Decimal

/-!
The fewest decimal digits that read back. A number is compared with the two neighbours that it
has on the grid of the decimals of 1, 2, … 17 digits; the first grid on which a neighbour reads
back as the number wins, and of two such neighbours the nearer.
-/
namespace FluentQuery

inductive Tie where
  | up
  | even
deriving DecidableEq, Repr

namespace Finite

variable {f : FloatFormat}

/-- The power `k` of ten with `10 ^ (k - 1) ≤ num / den < 10 ^ k`, for a positive fraction. -/
def decimalPoint (num den : Nat) : Int :=
  if den ≤ num then Decimal.width (num / den)
  else 1 - (Decimal.width ((den - 1) / num) : Int)

/-- The numerator and denominator of `num / den` in steps of `10 ^ exponent`. -/
def inSteps (num den : Nat) (exponent : Int) : Nat × Nat :=
  if 0 ≤ exponent then (num, den * Nat.pow 10 exponent.toNat)
  else (num * Nat.pow 10 exponent.natAbs, den)

def readsBack (x : Finite f) (coefficient : Nat) (exponent : Int) : Bool :=
  (Decimal.mk x.negative coefficient exponent).toBinary f = .finite x

/-- The neighbour on the grid of step `10 ^ exponent` that reads back, the nearer one if both
do. -/
def onGrid (tie : Tie) (x : Finite f) (exponent : Int) : Option Nat :=
  let (num, den) := inSteps x.units (Nat.pow 2 f.scale) exponent
  let low := num / den
  let twice := 2 * (num % den)
  let upper : Bool := match tie with
    | .up => den ≤ twice
    | .even => den < twice || (twice = den && low % 2 = 1)
  match readsBack x low exponent, readsBack x (low + 1) exponent with
  | true, true => some (if upper then low + 1 else low)
  | true, false => some low
  | false, true => some (low + 1)
  | false, false => none

/-- The first grid with an answer, from `digits` digits on. -/
def shortestFrom (tie : Tie) (x : Finite f) (point : Int) : Nat → Nat → Nat × Int
  | _, 0 => (x.units * Nat.pow 5 f.scale, -f.scale)
  | digits, left + 1 =>
    match onGrid tie x (point - digits) with
    | some coefficient => (coefficient, point - digits)
    | none => shortestFrom tie x point (digits + 1) left

/-- The shortest coefficient and its power of ten, for a number other than zero. Seventeen digits
always suffice for the formats in use; after them stands the exact expansion. -/
def shortest (tie : Tie) (x : Finite f) : Nat × Int :=
  shortestFrom tie x (decimalPoint x.units (Nat.pow 2 f.scale)) 1 17

end Finite

end FluentQuery
