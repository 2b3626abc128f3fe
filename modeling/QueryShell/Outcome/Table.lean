import QueryShell.Outcome.Plain
import QueryShell.Text.Cut
import QueryShell.Text.Width

/-
The table format: the keys as a header over the rows, in a box, with a summary below. A column is
as wide as its widest line and at least one column of the terminal; a cell has as many lines as its
text; rows shorter than the widest one are filled up with empty cells.
-/
namespace QueryShell.Outcome

/-- The characters of one horizontal rule. -/
structure Rule where
  left : Char
  line : Char
  crossing : Char
  right : Char

def topRule : Rule := ⟨'┌', '─', '┬', '┐'⟩
def headRule : Rule := ⟨'╞', '═', '╪', '╡'⟩
def rowRule : Rule := ⟨'├', '╌', '┼', '┤'⟩
def bottomRule : Rule := ⟨'└', '─', '┴', '┘'⟩

/-- A cell, as the lines of its text. -/
abbrev Cell := List (List Char)

/-- The cell that holds a text. -/
def cellOf (text : String) : Cell :=
  Text.cutAt '\n' text.toList

/-- A horizontal rule over columns of the given widths, each with a blank on both sides. -/
def Rule.draw (rule : Rule) (widths : List Nat) : List Char :=
  let segments := widths.map fun w => List.replicate (w + 2) rule.line
  rule.left :: ([rule.crossing].intercalate segments ++ [rule.right])

/-- One line of a cell, with blanks on both sides and up to the column's width. -/
def padLine (w : Nat) (line : List Char) : List Char :=
  ' ' :: (line ++ List.replicate (w - Text.width line) ' ' ++ [' '])

/-- The lines of a row: line `i` joins the lines `i` of its cells. -/
def drawRow (widths : List Nat) (cells : List Cell) : List (List Char) :=
  let height := (cells.map (·.length)).foldl max 0
  (List.range height).map fun i =>
    let parts := (widths.zip cells).map fun (w, cell) => padLine w (cell.getD i [])
    '│' :: (['┆'].intercalate parts ++ ['│'])

/-- Fills a row up with empty cells. -/
def fillRow (columns : Nat) (cells : List Cell) : List Cell :=
  cells ++ List.replicate (columns - cells.length) [[]]

/-- The width of column `i`. -/
def columnWidth (rows : List (List Cell)) (i : Nat) : Nat :=
  (rows.flatMap fun cells => (cells.getD i []).map Text.width).foldl max 1

/-- The box around a header and rows. -/
def drawTable (header : List Cell) (rows : List (List Cell)) : List (List Char) :=
  let columns := ((header :: rows).map (·.length)).foldl max 0
  let header := fillRow columns header
  let rows := rows.map (fillRow columns)
  let widths := (List.range columns).map (columnWidth (header :: rows))
  let body := [rowRule.draw widths].intercalate (rows.map (drawRow widths))
  topRule.draw widths :: drawRow widths header ++ headRule.draw widths :: body ++
    [bottomRule.draw widths]

/-- The keys and rows as a table with a summary below; only the summary when there are no keys. -/
def table (o : Outcome) : String :=
  if o.keys.isEmpty then o.summary
  else
    let header := o.keys.map cellOf
    let rows := o.rows.map fun row => row.map fun v => cellOf (renderValue v)
    let box := (drawTable header rows).map String.ofList
    "\n".intercalate (box ++ ["", o.summary])

end QueryShell.Outcome
