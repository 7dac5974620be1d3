/-!
Lines of a text. A line ends at any of the line boundaries of Unicode, where a carriage return
and the line feed after it count as one; a boundary at the very end opens no further line.
-/

namespace Formwork.Text

def isLineBreak (c : Char) : Bool :=
  let n := c.toNat
  (10 ≤ n && n ≤ 13) || (28 ≤ n && n ≤ 30) || n == 0x85 || n == 0x2028 || n == 0x2029

/-- The lines of a text that continues a line begun with `line`, kept in reverse. -/
def linesFrom (line : List Char) : List Char → List (List Char)
  | [] => if line.isEmpty then [] else [line.reverse]
  | '\r' :: '\n' :: rest => line.reverse :: linesFrom [] rest
  | c :: rest =>
    if isLineBreak c then line.reverse :: linesFrom [] rest else linesFrom (c :: line) rest

def lines (s : String) : List String := (linesFrom [] s.toList).map String.ofList

def lastLine? (s : String) : Option String := (lines s).getLast?

/-- The pieces of a text between separators, of which the first goes on from `piece`, kept in
reverse. -/
def piecesFrom (separator : Char) (piece : List Char) : List Char → List (List Char)
  | [] => [piece.reverse]
  | c :: rest =>
    if c = separator then piece.reverse :: piecesFrom separator [] rest
    else piecesFrom separator (c :: piece) rest

def pieces (separator : Char) (cs : List Char) : List (List Char) := piecesFrom separator [] cs

/-- Carriage returns, alone or before a line feed, become line feeds. -/
def unifyNewlines : List Char → List Char
  | [] => []
  | '\r' :: '\n' :: rest => '\n' :: unifyNewlines rest
  | c :: rest => (if c = '\r' then '\n' else c) :: unifyNewlines rest

/-- All lines but the first are moved right by `width` blanks. Empty lines stay empty, and every
line boundary becomes a line feed, one at the very end included. -/
def indent (width : Nat) (s : String) : String :=
  match lines (s ++ "\n") with
  | [] => ""
  | first :: rest =>
    "\n".intercalate (first :: rest.map fun line =>
      if line.isEmpty then line else String.ofList (List.replicate width ' ') ++ line)

end Formwork.Text
