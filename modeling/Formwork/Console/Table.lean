import Formwork.Console.Markup
import Formwork.Console.Wrap
import Formwork.Text.Lines

/-!
Tables of two columns. A column is as wide as its widest cell while there is room; the values give
way first, and what does not fit ends with an ellipsis. Where there is no room for the text of a
cell, its markup is not even read.
-/

namespace Formwork.Console

/-- A table: rows of an item and its value, and a title above them, unless it counts as false. All
are markup, and a title that is no text cannot be shown. -/
structure Table where
  title : Value
  rows : List (String × String)

namespace Table

/-- The heading of a column, for the items and for the values. -/
def headings : String × String := ("Item", "Value")

/-- The cells beside the text of a cell: one blank on either side. -/
def padding : Nat := 2

/-- The cells of lines beside the columns: one before, one between, one behind. -/
def borders : Nat := 3

def naturalWidth (cs : List Char) : Nat :=
  ((Text.linesFrom [] cs).map width).foldl max 0

def columnWidth (room : Nat) (texts : List String) : Except RenderError Nat :=
  if room ≤ padding then .ok room
  else do
    let widths ← texts.mapM fun markup => do
      return min room (naturalWidth (← Markup.render markup).text.plain + padding)
    return widths.foldl max 0

/-- The widths of the columns. Where there is not room enough for both, the values get what the
items leave over. -/
def columnWidths (room : Nat) (items values : List String) : Except RenderError (Nat × Nat) := do
  let item := max 1 (← columnWidth room items)
  let value := max 1 (← columnWidth room values)
  if item + value ≤ room then return (item, value)
  else
    let value := value - min (item + value - room) value
    let item := if item + value ≤ room then item else room
    return (← columnWidth item items, ← columnWidth value values)

def cellLines (wraps : Bool) (limit : Nat) (markup : String) : Except RenderError (List Line) :=
  if limit ≤ padding then .ok []
  else do
    let inner := limit - padding
    let text ← (← Markup.render markup).resolve
    let lines := if wraps then text.wrap .ellipsis inner else text.unwrapped .ellipsis inner
    return lines.map fun line =>
      Line.fill limit ([' '] :: Line.fill inner (line.pad inner).runs ++ [[' ']])

def lineOf (limit : Nat) (cell : List Line) (n : Nat) : Line := cell[n]?.getD [blanks limit]

def rowLines (bar : Char) (widths : Nat × Nat) (row : String × String) :
    Except RenderError (List Line) := do
  let item ← cellLines false widths.1 row.1
  let value ← cellLines true widths.2 row.2
  return (List.range (max 1 (max item.length value.length))).map fun n =>
    [bar] :: lineOf widths.1 item n ++ [bar] :: lineOf widths.2 value n ++ [[bar]]

/-- A horizontal line: its left end, its body, its crossing with the line between the columns, and
its right end. -/
def edge (left body crossing right : Char) (widths : Nat × Nat) : Line :=
  [left :: List.replicate widths.1 body ++ crossing :: List.replicate widths.2 body ++ [right]]

def centered (limit : Nat) (t : Styled) : Line :=
  let line := t.trimEnd.shorten .fold limit
  let left := Styled.ofChars true (blanks ((limit - width line.plain) / 2))
  let line := if line.head?.any Glyph.covered then line.opened else line
  ((left ++ line).pad limit).runs

def titleLines (limit : Nat) (title : Value) : Except RenderError (List Line) :=
  match title.truthy, title with
  | false, _ => .ok []
  | true, .str markup => do
    return ((← (← Markup.render markup).resolve).wrap .fold limit).map (centered limit)
  | true, v => .error (.notText v)

def lines (limit : Nat) (t : Table) : Except RenderError (List Line) := do
  let widths ← columnWidths (limit - borders) (headings.1 :: t.rows.map (·.1))
    (headings.2 :: t.rows.map (·.2))
  let title ← titleLines (widths.1 + widths.2 + borders) t.title
  let head ← rowLines '┃' widths headings
  let rows ← t.rows.mapM (rowLines '│' widths)
  return title ++ edge '┏' '━' '┳' '┓' widths :: head ++
    edge '┡' '━' '╇' '┩' widths :: rows.flatten ++ [edge '└' '─' '┴' '┘' widths]

end Table

end Formwork.Console
