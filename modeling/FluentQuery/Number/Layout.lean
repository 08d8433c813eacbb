import FluentQuery.Number.Shortest

/-!
Texts of floating-point numbers: where positional notation ends and how an exponent is written.
Digits are always the fewest that read back.
-/
namespace FluentQuery

/-- The decisions of a number format. Exponents of the leading digit from `leastPlain` to
`mostPlain` are written positionally; `plus` says whether a sign stands before an exponent that
is not negative. -/
structure FloatLayout where
  leastPlain : Int
  mostPlain : Int
  plus : Bool
  tie : Tie
deriving DecidableEq, Repr

namespace FloatLayout

/-- Literals in a statement: positional from 0.0001 up to below 10 ^ 16, and no sign before an
exponent. -/
def literal : FloatLayout := ⟨-4, 15, false, .up⟩

/-- Numbers in a JSON text: positional from 0.00001 up to below 10 ^ 16, and a sign before every
exponent. -/
def json : FloatLayout := ⟨-5, 15, true, .even⟩

end FloatLayout

/-- The digits without the zeros at their end, and how many those were. -/
def dropTrailingZeros (digits : List Char) : List Char × Nat :=
  let kept := (digits.reverse.dropWhile (· = '0')).reverse
  (kept, digits.length - kept.length)

/-- Digits with the point after the first `point` of them; on both sides of the point stands at
least one digit. -/
def positional (digits : List Char) (point : Int) : List Char :=
  if point ≤ 0 then ['0', '.'] ++ List.replicate point.natAbs '0' ++ digits
  else
    let whole := digits.take point.toNat
    let fraction := digits.drop point.toNat
    whole ++ List.replicate (point.toNat - whole.length) '0' ++ ['.'] ++
      (if fraction.isEmpty then ['0'] else fraction)

/-- Digits with a point after the first of them if there are more, and the exponent. -/
def scientific (plus : Bool) (digits : List Char) (exponent : Int) : List Char :=
  let mantissa := match digits with
    | first :: second :: rest => first :: '.' :: second :: rest
    | _ => digits
  let sign := if exponent < 0 then ['-'] else if plus then ['+'] else []
  mantissa ++ ['e'] ++ sign ++ Nat.toDigits 10 exponent.natAbs

def Finite.chars {f : FloatFormat} (layout : FloatLayout) (x : Finite f) : List Char :=
  let sign := if x.negative then ['-'] else []
  if x.isZero then sign ++ ['0', '.', '0']
  else
    let (coefficient, exponent) := x.shortest layout.tie
    let (digits, zeros) := dropTrailingZeros (Nat.toDigits 10 coefficient)
    let point : Int := digits.length + zeros + exponent
    sign ++
      (if layout.leastPlain ≤ point - 1 && point - 1 ≤ layout.mostPlain then
        positional digits point
      else scientific layout.plus digits (point - 1))

def Binary.literal {f : FloatFormat} : Binary f → String
  | .nan => "NaN"
  | .infinite negative => if negative then "-inf" else "inf"
  | .finite x => String.ofList (x.chars .literal)

end FluentQuery
