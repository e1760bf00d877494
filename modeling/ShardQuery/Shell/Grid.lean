import ShardQuery.Text.Pieces
import ShardQuery.Text.Columns

namespace ShardQuery

structure Grid where
  header : List String
  rows : List (List String)
deriving DecidableEq, Repr

namespace Grid

def cellLines (cell : String) : List String := Text.split '\n' cell

def cellWidth (cell : String) : Nat := ((cellLines cell).map Text.width).foldl max 1

def widths (g : Grid) : List Nat :=
  g.rows.foldl (fun ws row => List.zipWith max ws (row.map cellWidth)) (g.header.map cellWidth)

/-- A line with blanks up to a width, and one blank on either side. -/
def padded (width : Nat) (line : String) : String :=
  " " ++ line ++ String.ofList (List.replicate (width - Text.width line + 1) ' ')

def drawLine (widths : List Nat) (cells : List String) : String :=
  "|" ++ "|".intercalate (List.zipWith padded widths cells) ++ "|"

/-- The lines of a row: as many as its highest cell has, the others continued with empty lines. -/
def drawRow (widths : List Nat) (row : List String) : List String :=
  let cells := row.map cellLines
  let height := (cells.map List.length).foldl max 0
  (List.range height).map fun i => drawLine widths (cells.map (·.getD i ""))

def strokes (widths : List Nat) (c : Char) : List String :=
  widths.map fun w => String.ofList (List.replicate (w + 2) c)

def border (widths : List Nat) : String := "+" ++ "+".intercalate (strokes widths '-') ++ "+"

/-- The rule under the header, which shows no columns. -/
def headerRule (widths : List Nat) : String := "+" ++ "=".intercalate (strokes widths '=') ++ "+"

def rowRule (widths : List Nat) : String := "|" ++ "+".intercalate (strokes widths '-') ++ "|"

def lines (g : Grid) : List String :=
  let ws := g.widths
  [border ws] ++ drawRow ws g.header ++ [headerRule ws] ++
    ((g.rows.map (drawRow ws)).intersperse [rowRule ws]).flatten ++ [border ws]

def draw (g : Grid) : String := "\n".intercalate g.lines

end Grid

end ShardQuery
