import FluentQuery.Json.Printer
import FluentQuery.Number.Integer
import FluentQuery.Number.Layout
import FluentQuery.Text.Scan
import FluentQuery.Text.Utf8

/-!
Cells of a database: their classes, their order, and the affinities of columns, which say how a
cell is changed when it is stored or compared.
-/
namespace FluentQuery.Sql

inductive Cell where
  | null
  | integer (n : Int64)
  | real (x : Double)
  | text (s : String)
  | blob (bytes : List UInt8)
deriving DecidableEq, Repr, Inhabited

/-- What a column would rather hold. A numeric column holds integers where it can, an untyped
column takes every cell as it is. -/
inductive Affinity where
  | text
  | numeric
  | real
  | untyped
deriving DecidableEq, Repr, Inhabited

/-- The digits of a real as text: fifteen of them, a half rounded up, and no zeros at the end. -/
def fifteenDigits (x : Finite FloatFormat.double) : List Char × Int :=
  let den := Nat.pow 2 FloatFormat.double.scale
  let point := Finite.decimalPoint x.units den
  let (num, den) := Finite.inSteps x.units den (point - 15)
  let digits := Nat.toDigits 10 ((2 * num + den) / (2 * den))
  ((dropTrailingZeros digits).1, point + (digits.length - 15 : Nat))

/-- Digits with a point after the first of them, and an exponent of at least two digits. -/
def exponential (digits : List Char) (exponent : Int) : List Char :=
  let fraction := digits.drop 1
  digits.take 1 ++ ['.'] ++ (if fraction.isEmpty then ['0'] else fraction) ++ ['e'] ++
    (if exponent < 0 then ['-'] else ['+']) ++ (padded 2 exponent.natAbs).toList

/-- The text of a real. Zero has no sign. -/
def realText : Double → String
  | .nan => ""
  | .infinite negative => if negative then "-Inf" else "Inf"
  | .finite x =>
    if x.isZero then "0.0"
    else
      let (digits, point) := fifteenDigits x
      String.ofList ((if x.negative then ['-'] else []) ++
        (if -3 ≤ point && point ≤ 15 then positional digits point
          else exponential digits (point - 1)))

def isNumeralBlank (c : Char) : Bool := c = ' ' || (9 ≤ c.toNat && c.toNat ≤ 13)

/-- The number that a text is, if it is one; blanks may stand at both ends. -/
def numeral? (s : String) : Option Cell :=
  let cs := s.toList.dropWhile isNumeralBlank
  let cs := (cs.reverse.dropWhile isNumeralBlank).reverse
  match Decimal.ofChars? cs with
  | none => none
  | some d =>
    let whole := cs.all fun c => c.isDigit || c = '-' || c = '+'
    let n : Int := if d.negative then -d.coefficient else d.coefficient
    match whole, int64? n with
    | true, some n => some (.integer n)
    | _, _ => some (.real (d.toBinary _))

/-- The integer that a real is, if it lies strictly between the ends of the range. -/
def integral? : Double → Option Int64
  | .finite x =>
    let unit : Int := Nat.pow 2 FloatFormat.double.scale
    if x.signedUnits % unit = 0 ∧ (x.signedUnits / unit).natAbs < Nat.pow 2 63 then
      some (Int64.ofInt (x.signedUnits / unit))
    else none
  | _ => none

def realOfInteger (n : Int64) : Double := .ofInt _ n.toInt

namespace Cell

/-- A number in a text is that number; other cells stay. -/
def asNumber : Cell → Cell
  | text s => (numeral? s).getD (text s)
  | cell => cell

/-- A real that is an integer is that integer; other cells stay. -/
def asInteger : Cell → Cell
  | real x => ((integral? x).map integer).getD (real x)
  | cell => cell

def asReal : Cell → Cell
  | integer n => real (realOfInteger n)
  | cell => cell

def asText : Cell → Cell
  | integer n => text (integerText n.toInt)
  | real x => text (realText x)
  | cell => cell

def stored : Affinity → Cell → Cell
  | .text, cell => cell.asText
  | .numeric, cell => cell.asNumber.asInteger
  | .real, cell => cell.asNumber.asInteger.asReal
  | .untyped, cell => cell

def isText : Cell → Bool
  | text _ => true
  | _ => false

/-- The exact value of a real in units, with infinities beyond all others. -/
def realKey : Double → Int × Int
  | .nan => (-2, 0)
  | .infinite negative => (if negative then -1 else 1, 0)
  | .finite x => (0, x.signedUnits)

def integerKey (n : Int64) : Int × Int := (0, n.toInt * Nat.pow 2 FloatFormat.double.scale)

def compareKeys (a b : Int × Int) : Ordering := (compare a.1 b.1).then (compare a.2 b.2)

/-- The order of two cells: numbers by their exact values, then texts by code points, then blobs
by bytes. Nothing is comparable with null. -/
def order : Cell → Cell → Option Ordering
  | null, _ => none
  | _, null => none
  | integer a, integer b => some (compareKeys (integerKey a) (integerKey b))
  | integer a, real b => some (compareKeys (integerKey a) (realKey b))
  | real a, integer b => some (compareKeys (realKey a) (integerKey b))
  | real a, real b => some (compareKeys (realKey a) (realKey b))
  | text a, text b => some (compare a b)
  | blob a, blob b => some (compare a b)
  | integer _, _ => some .lt
  | real _, _ => some .lt
  | _, integer _ => some .gt
  | _, real _ => some .gt
  | text _, blob _ => some .lt
  | blob _, text _ => some .gt

/-- The cell of a JSON value: arrays and objects are their texts, and an integer beyond the signed
range is the nearest real. -/
def ofJson : Json → Cell
  | .null => null
  | .bool b => integer (if b then 1 else 0)
  | .int n => match int64? n.val with
    | some n => integer n
    | none => real (.ofInt _ n.val)
  | .float x => real (.finite x)
  | .str s => text s
  | .arr items => text (Json.arr items).text
  | .obj entries => text (Json.obj entries).text

/-- The JSON value of a cell; a blob is read as text. -/
def toJson : Cell → Json
  | null => .null
  | integer n => .ofInt64 n
  | real x => .ofDouble x
  | text s => .str s
  | blob bytes => .str (Text.readable bytes)

end Cell

/-- The affinity of a declared type. The words are looked for anywhere in it, in any case. -/
def Affinity.ofType (declared : String) : Affinity :=
  let holds (word : String) : Bool := Text.occurs word.toList (Text.lowered declared).toList
  if declared.isEmpty then untyped
  else if holds "int" then numeric
  else if holds "char" || holds "clob" || holds "text" then text
  else if holds "blob" then untyped
  else if holds "real" || holds "floa" || holds "doub" then real
  else numeric

end FluentQuery.Sql
