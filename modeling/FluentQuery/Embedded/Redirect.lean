import FluentQuery.Table.Basic
import FluentQuery.Text.Blank
import FluentQuery.Text.Scan
import FluentQuery.Text.Word

/-!
Pointing the table function of readers at a table. Wherever `FROM` or `JOIN`, blanks and the
function stand in a statement, in any case and even inside a literal, the function is replaced by
the name of the table; a word that ends in `from` or `join` does not count.
-/
namespace FluentQuery.Embedded

/-- The table that holds the rows of a reader while a statement runs. -/
def readerTable : String := "chainquery_reader"

def lowerAll (cs : List Char) : List Char := cs.map Char.toLower

/-- The number of characters of a table position with the table function of readers, and what
stands in their stead; none where there is no such position. -/
def readerPosition (before : Option Char) (cs : List Char) : Nat × List Char :=
  let word := cs.take 4
  let gap := (cs.drop 4).takeWhile Text.isBlank
  let function := (cs.drop (4 + gap.length)).take Table.readerFunction.length
  let inside := (before.map Text.isWord).getD false
  if !inside && (lowerAll word = "from".toList || lowerAll word = "join".toList) &&
      !gap.isEmpty && lowerAll function = lowerAll Table.readerFunction.toList then
    (4 + gap.length + function.length, word ++ gap ++ readerTable.toList)
  else (0, [])

def redirected (cs : List Char) : List Char := Text.replaceFrom readerPosition none 0 cs

/-- The statement with every table function of readers replaced, if it has one. -/
def redirect? (sql : String) : Option String :=
  let cs := redirected sql.toList
  if cs = sql.toList then none else some (String.ofList cs)

end FluentQuery.Embedded
