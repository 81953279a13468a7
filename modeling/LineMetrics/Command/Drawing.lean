import LineMetrics.Command.Console
import LineMetrics.Command.Markup
import LineMetrics.Text.Display

/-!
# Drawing tables and messages

The lines of a table and of a message, as a terminal wide enough for them shows them.  Text is
marked up, so what is shown as it stands is escaped first.  The title stands in the middle above its
table, and a path that is too wide for its column goes over several lines.
-/

namespace LineMetrics
namespace Command

/-- Rendered text line by line. -/
def linesOf (r : Markup.Rendering) : List String := (Text.shownLines r.text).map String.ofList

/-- A message line by line, each of one cell: a label in red, and what it is about. -/
def messageLines (label : String) (texts : List String) : Except Fault (List (List String)) := do
  let shown := ": ".intercalate (texts.map Markup.escape)
  let message ← Markup.render s!"[red]{label}:[/red] {shown}"
  return (linesOf message).map fun l => [l]

/-- A row of the table: a cell that may go over several lines, and cells that do not. -/
def rowLines (first : List (List Char)) (others : List String) : List (List String) :=
  match first.map String.ofList with
  | [] => []
  | line :: more => (line :: others) :: more.map fun l => l :: others.map fun _ => ""

/-- The title of a table; every style that is drawn has to be without fault, and a title that is no
text cannot be shown. -/
def titleOf (title : Value) : Except Fault Markup.Rendering := do
  match title with
  | .text name =>
    let title ← Markup.render name
    title.checkStyles
    return title
  | other => throw (.unrenderable (← other.shown 0))

/-- The widths of the columns of some rows, behind a row of given widths: a column has room for what
its cells ask for. -/
def columnWidths (first : List Nat) (rows : List (List (List Char))) : List Nat :=
  rows.foldl (fun widths row => List.zipWith max widths (row.map Text.askedCells)) first

/-- The width of a table: a cell has a blank on either side and a line in front of it, and one more
line is behind the last. -/
def tableWidth (widths : List Nat) : Nat := widths.foldl (fun sum width => sum + width + 3) 1

/-- A table, line by line, each line in cells. -/
def tableLines (t : Table) : Except Fault (List (List String)) := do
  let title ← titleOf t.title
  let rows ← t.rows.mapM fun row => do
    let first ← Markup.render (Markup.escape (row.headD ""))
    return (first.text, row.drop 1)
  let head := t.columns.map Prod.fst
  let foot := t.columns.map Prod.snd
  let widths := columnWidths (head.map String.length)
    (foot.map String.toList :: rows.map fun (first, cells) => first :: cells.map String.toList)
  let titleLines := (Text.centredLines (tableWidth widths) title.text).map fun line =>
    [String.ofList line]
  let rowsLines := rows.flatMap fun (first, cells) =>
    rowLines (Text.cellLines (widths.headD 0) first) cells
  return titleLines ++ head :: rowsLines ++ [foot]

end Command
end LineMetrics
