import FluentQuery.Output.Delimited
import FluentQuery.Text.Scan
import FluentQuery.Text.Width

/-!
Rows as an aligned grid with ruled borders. A cell may have several lines; it stands at the top
left of its place, and a row is as high as its highest cell.
-/
namespace FluentQuery.Grid

def lines (cell : String) : List (List Char) := Text.splitAll '\n' cell.toList

def cellWidth (cell : String) : Nat := ((lines cell).map Text.width).foldl max 0

/-- Records with empty cells up to the length of the longest one. -/
def squared (records : List (List String)) : List (List String) :=
  let columns := (records.map List.length).foldl max 0
  records.map fun record => record ++ List.replicate (columns - record.length) ""

def columnWidths (records : List (List String)) : List Nat :=
  match records with
  | [] => []
  | first :: rest => rest.foldl (fun widths record =>
      List.zipWith (fun width cell => max width (cellWidth cell)) widths record)
    (first.map cellWidth)

/-- A ruled line with the marks for its left end, its crossings and its right end. -/
def rule (left cross right : String) (widths : List Nat) : String :=
  left ++ cross.intercalate (widths.map fun width =>
    String.join (List.replicate (width + 2) "─")) ++ right

def filled (width : Nat) (line : List Char) : String :=
  " " ++ String.ofList (line ++ List.replicate (width - Text.width line) ' ') ++ " "

def recordLines (widths : List Nat) (record : List String) : List String :=
  let cells := record.map lines
  let height := (cells.map List.length).foldl max 0
  (List.range height).map fun i =>
    "│" ++ "│".intercalate (List.zipWith (fun width cell => filled width (cell.getD i []))
      widths cells) ++ "│"

/-- The grid of a heading and the records below it. A grid without records stays open below its
heading, and one without columns is empty. -/
def render (heading : List String) (records : List (List String)) : String :=
  let all := squared (heading :: records)
  let widths := columnWidths all
  if widths.isEmpty then ""
  else
    let body := all.drop 1
    "\n".intercalate (
      [rule "╭" "┬" "╮" widths] ++
      (all.take 1).flatMap (recordLines widths) ++
      [rule "├" "┼" "┤" widths] ++
      body.flatMap (recordLines widths) ++
      (if body.isEmpty then [] else [rule "╰" "┴" "╯" widths]))

end FluentQuery.Grid
