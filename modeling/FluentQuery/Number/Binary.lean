/-!
Binary floating-point numbers as exact values. A finite magnitude is named by its rank in the
order of the format's magnitudes; all arithmetic is that of the exact rationals, followed by one
rounding to the nearest number, a tie to the even rank.
-/
namespace FluentQuery

/-- A binary interchange format: bits of fraction, number of normal binades, and the exponent of
its unit, the least positive magnitude `2 ^ -scale`. -/
structure FloatFormat where
  fraction : Nat
  binades : Nat
  scale : Nat
deriving DecidableEq, Repr

namespace FloatFormat

def single : FloatFormat := ⟨23, 254, 149⟩

def double : FloatFormat := ⟨52, 2046, 1074⟩

/-- The number of finite magnitudes: the subnormal ones with zero, and each binade. -/
def count (f : FloatFormat) : Nat := (f.binades + 1) * Nat.pow 2 f.fraction

theorem count_pos (f : FloatFormat) : 0 < f.count :=
  Nat.mul_pos (Nat.succ_pos _) (Nat.two_pow_pos _)

/-- The magnitude of a rank, in units. -/
def units (f : FloatFormat) (rank : Nat) : Nat :=
  let binade := Nat.pow 2 f.fraction
  if rank < binade then rank
  else (binade + rank % binade) * Nat.pow 2 (rank / binade - 1)

/-- The quotient rounded to the nearest natural number, a tie to the even one. -/
def divNearest (num den : Nat) : Nat :=
  let low := num / den
  let twice := 2 * (num % den)
  if twice < den then low
  else if twice = den then low + low % 2
  else low + 1

/-- The rank whose magnitude is nearest to `num / den` units, a tie to the even rank. Ranks from
`count` on stand for what lies beyond the finite range. -/
def nearestRank (f : FloatFormat) (num den : Nat) : Nat :=
  let shift := (num / den).log2 - f.fraction
  shift * Nat.pow 2 f.fraction + divNearest num (den * Nat.pow 2 shift)

end FloatFormat

/-- A finite number of a format: a sign and the rank of its magnitude. Zero has both signs. -/
structure Finite (f : FloatFormat) where
  negative : Bool
  rank : Fin f.count
deriving DecidableEq, Repr

/-- A number of a format, an infinity, or no number at all. -/
inductive Binary (f : FloatFormat) where
  | nan
  | infinite (negative : Bool)
  | finite (x : Finite f)
deriving DecidableEq, Repr

abbrev Single := Binary FloatFormat.single

abbrev Double := Binary FloatFormat.double

namespace Finite

variable {f : FloatFormat}

/-- The magnitude in units of the format. -/
def units (x : Finite f) : Nat := f.units x.rank

def signedUnits (x : Finite f) : Int := if x.negative then -(x.units : Int) else x.units

def isZero (x : Finite f) : Bool := x.rank.val == 0

def zero (f : FloatFormat) (negative : Bool) : Finite f := ⟨negative, 0, f.count_pos⟩

instance : Inhabited (Finite f) := ⟨zero f false⟩

end Finite

namespace Binary

variable {f : FloatFormat}

instance : Inhabited (Binary f) := ⟨nan⟩

/-- The number of a rank, infinite where the rank is beyond the finite ones. -/
def ofRank (negative : Bool) (rank : Nat) : Binary f :=
  if h : rank < f.count then finite ⟨negative, rank, h⟩ else infinite negative

def ofFraction (f : FloatFormat) (negative : Bool) (num den : Nat) : Binary f :=
  ofRank negative (f.nearestRank (num * Nat.pow 2 f.scale) den)

def ofInt (f : FloatFormat) (n : Int) : Binary f := ofFraction f (n < 0) n.natAbs 1

def convert (g : FloatFormat) : Binary f → Binary g
  | nan => nan
  | infinite negative => infinite negative
  | finite x => ofFraction g x.negative x.units (Nat.pow 2 f.scale)

/-- The sum, rounded once. A sum that vanishes is negative only if both terms are. -/
def add : Binary f → Binary f → Binary f
  | nan, _ => nan
  | _, nan => nan
  | infinite a, infinite b => if a = b then infinite a else nan
  | infinite a, finite _ => infinite a
  | finite _, infinite b => infinite b
  | finite x, finite y =>
    let sum := x.signedUnits + y.signedUnits
    if sum = 0 then finite (Finite.zero f (x.negative && y.negative))
    else ofRank (sum < 0) (f.nearestRank sum.natAbs 1)

end Binary

end FluentQuery
