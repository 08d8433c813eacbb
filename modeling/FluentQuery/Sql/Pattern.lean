import FluentQuery.Sql.Cell

/-!
Patterns of texts: a percent sign stands for any characters, an underscore for one, and every
other character for itself, letters of ASCII in either case.
-/
namespace FluentQuery.Sql

def likeChars : List Char → List Char → Bool
  | [], cs => cs.isEmpty
  | p :: pattern, cs =>
    if p = '%' then anySuffix (likeChars pattern) cs
    else match cs with
      | [] => false
      | c :: cs => (p = '_' || p.toLower = c.toLower) && likeChars pattern cs
where
  anySuffix (holds : List Char → Bool) : List Char → Bool
    | [] => holds []
    | c :: cs => holds (c :: cs) || anySuffix holds cs

/-- The text of a cell that a pattern sees; it ends before a null character. -/
def patternText : Cell → Option (List Char)
  | .null => none
  | .integer n => some (integerText n.toInt).toList
  | .real x => some (realText x).toList
  | .text s => some (s.toList.takeWhile (· ≠ '\x00'))
  | .blob bytes => some ((Text.readable bytes).toList.takeWhile (· ≠ '\x00'))

/-- Whether the first cell is of the pattern that the second is; there is no answer for null. -/
def isLike (cell pattern : Cell) : Option Bool := do
  return likeChars (← patternText pattern) (← patternText cell)

end FluentQuery.Sql
