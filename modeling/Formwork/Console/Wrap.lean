import Formwork.Console.Styled

/-!
Lines of limited width. Text is cut between words, and the blanks after a word belong to it. A word
that is wider than a line is folded over several lines or shortened.
-/

namespace Formwork.Console

/-- The words of a line with the blanks around them, of which `word` has been read, in reverse;
`ended` tells whether blanks after the word have been read. -/
def spacedWordsFrom (word : List Char) (started ended : Bool) : List Char → List (List Char)
  | [] => if started then [word.reverse] else []
  | c :: cs =>
    if Text.isBlank c then spacedWordsFrom (c :: word) started started cs
    else if ended then word.reverse :: spacedWordsFrom [c] true false cs
    else spacedWordsFrom (c :: word) true false cs

/-- The words of a line with the blanks after them; the blanks at the beginning belong to the
first. A line of blanks has no words. -/
def spacedWords (cs : List Char) : List (List Char) := spacedWordsFrom [] false false cs

def trimmed (word : List Char) : List Char := Text.trimEndChars Text.isBlank word

/-- The lines that words fill. The last line that has begun is `line`, and its words take `cell`
cells. -/
def fillLines (overflow : Overflow) (limit cell : Nat) (line : Option (List Char)) :
    List (List Char) → List (List Char)
  | [] => line.toList
  | word :: rest =>
    let needed := width (trimmed word)
    if cell + needed ≤ limit then
      fillLines overflow limit (cell + width word) (some (line.getD [] ++ word)) rest
    else if limit < needed && overflow == .fold then
      let pieces := chop limit word
      let pieces := if line.isNone then pieces.dropWhile List.isEmpty else pieces
      let last := pieces.getLast?.getD []
      line.toList ++ pieces.dropLast ++ fillLines overflow limit (width last) (some last) rest
    else line.toList ++ fillLines overflow limit (width word) (some word) rest

def plainLines (overflow : Overflow) (limit : Nat) (cs : List Char) : List (List Char) :=
  match spacedWords cs with
  | [] => [cs]
  | words => fillLines overflow limit 0 none words

namespace Styled

def cutAs (t : Styled) : List (List Char) → List Styled
  | [] => []
  | line :: rest => t.take line.length :: cutAs (t.drop line.length) rest

def dropExcessBlanks (limit : Nat) (t : Styled) : Styled :=
  t.dropEnd (min t.trailingBlanks (t.length - limit))

/-- The lines that a text takes where a line has room for `limit` cells. -/
def wrap (overflow : Overflow) (limit : Nat) (t : Styled) : List Styled :=
  t.lines.flatMap fun line =>
    let line := line.expandTabs
    (line.cutAs (plainLines overflow limit line.plain)).map fun cut =>
      (cut.dropExcessBlanks limit).shorten overflow limit

/-- The lines of a text that are not cut, but shortened where they are too wide. -/
def unwrapped (overflow : Overflow) (limit : Nat) (t : Styled) : List Styled :=
  t.lines.map fun line => line.expandTabs.shorten overflow limit

end Styled

end Formwork.Console
