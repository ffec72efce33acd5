import AgentSpec.Text.Width

/-!
Tables of text in ruled lines.

A column is as wide as its widest line, with a blank on either side.  A cell may have several lines;
the shorter cells of its row are filled up.
-/
namespace AgentSpec

structure Grid where
  header : List String
  rows : List (List String)
deriving DecidableEq, Repr

namespace Grid

/-- The characters of a ruled line: its ends, its stroke and the joints between columns. -/
structure Rule where
  left : String
  stroke : Char
  joint : String
  right : String

def topRule : Rule := ⟨"╭", '─', "┬", "╮"⟩
def headerRule : Rule := ⟨"╞", '═', "╪", "╡"⟩
def rowRule : Rule := ⟨"├", '╌', "┼", "┤"⟩
def bottomRule : Rule := ⟨"╰", '─', "┴", "╯"⟩

def lines (cell : String) : List String := cell.splitOn "\n"

/-- The width of the widest line of a cell. -/
def cellWidth (cell : String) : Nat :=
  ((lines cell).map Text.width).foldl max 0

/-- The widths of the columns. -/
def widths (g : Grid) : List Nat :=
  g.rows.foldl (fun ws row => List.zipWith max ws (row.map cellWidth)) (g.header.map cellWidth)

def Rule.draw (r : Rule) (widths : List Nat) : String :=
  let line (w : Nat) : String := String.ofList (List.replicate (w + 2) r.stroke)
  r.left ++ r.joint.intercalate (widths.map line) ++ r.right

/-- A line of a cell, filled up to the width of its column. -/
def fill (w : Nat) (line : String) : String :=
  " " ++ line ++ String.ofList (List.replicate (w - Text.width line + 1) ' ')

/-- The lines of a row. -/
def drawRow (widths : List Nat) (row : List String) : List String :=
  let cells := row.map lines
  let height := (cells.map List.length).foldl max 1
  (List.range height).map fun i =>
    let parts := List.zipWith (fun w cell => fill w (cell[i]?.getD "")) widths cells
    "│" ++ "┆".intercalate parts ++ "│"

def draw (g : Grid) : List String :=
  let ws := g.widths
  let body := (g.rows.map (drawRow ws)).intersperse [rowRule.draw ws]
  [topRule.draw ws] ++ drawRow ws g.header ++ [headerRule.draw ws] ++ body.flatten ++
    [bottomRule.draw ws]

end Grid
end AgentSpec
