import Formwork.Console.CellWidth
import Formwork.Text.Blank

/-!
Lines in runs, and text in styles. A run of a line is in one style, and cells are counted run by
run: what stands in different runs is never drawn as one picture. Of the styles of a text only their
bounds are kept, since they part the text into runs.
-/

namespace Formwork.Console

abbrev Line := List (List Char)

namespace Line

def cells : Line → Nat
  | [] => 0
  | run :: runs => width run + cells runs

def cut : (limit : Nat) → Line → Line
  | _, [] => []
  | limit, run :: runs =>
    if width run < limit then run :: cut (limit - width run) runs else [fit limit run]

def crop (limit : Nat) (line : Line) : Line :=
  if limit < line.cells then line.cut limit else line

def fill (limit : Nat) (line : Line) : Line :=
  if line.cells < limit then line ++ [blanks (limit - line.cells)] else line.crop limit

def text (line : Line) : String := String.ofList line.flatten

end Line

/-- A character of text in styles. `opens` tells whether a style begins or ends before it, and
`covered` whether it is in any style, so that text added after it is in another run. -/
structure Glyph where
  char : Char
  opens : Bool := false
  covered : Bool := false
  deriving DecidableEq, Repr

abbrev Styled := List Glyph

/-- What happens to text that is wider than a line: it is cut into pieces, or it is cut off and
ends with an ellipsis. -/
inductive Overflow | fold | ellipsis
  deriving DecidableEq, Repr

namespace Styled

def ofChars (covered : Bool) (cs : List Char) : Styled := cs.map fun c => ⟨c, false, covered⟩

def plain (t : Styled) : List Char := t.map Glyph.char

def opened : Styled → Styled
  | [] => []
  | g :: gs => { g with opens := true } :: gs

/-- The runs of a text, of which the first goes on from `run`, which stands in reverse. -/
def runsAfter (run : List Char) : Styled → Line
  | [] => if run.isEmpty then [] else [run.reverse]
  | g :: gs =>
    if g.opens && !run.isEmpty then run.reverse :: runsAfter [g.char] gs
    else runsAfter (g.char :: run) gs

def runs (t : Styled) : Line := runsAfter [] t

/-- A text that is filled up with blanks to a number of cells. The blanks are in no style. -/
def pad (limit : Nat) (t : Styled) : Styled :=
  let gap := ofChars false (blanks (limit - width t.plain))
  t ++ if t.getLast?.any Glyph.covered then gap.opened else gap

def replaceChars : Styled → List Char → Styled
  | _, [] => []
  | [], cs => ofChars false cs
  | g :: gs, c :: cs => { g with char := c } :: replaceChars gs cs

/-- A text that fits into a number of cells; one that is wider is shortened. -/
def shorten (overflow : Overflow) (limit : Nat) (t : Styled) : Styled :=
  if width t.plain ≤ limit then t
  else
    t.replaceChars <|
      match overflow with
      | .fold => fit limit t.plain
      | .ellipsis => fit (limit - 1) t.plain ++ ['…']

/-- The pieces of a text between line feeds, of which the first goes on from `line`, which stands
in reverse. -/
def linesAfter (line : Styled) : Styled → List Styled
  | [] => [line.reverse]
  | g :: gs =>
    if g.char = '\n' then line.reverse :: linesAfter [] gs else linesAfter (g :: line) gs

def lines (t : Styled) : List Styled := linesAfter [] t

/-- The cells between the stops of tabulators. -/
def tabulatorStop : Nat := 8

/-- A line with blanks in the place of tabulators, where `part` stands in reverse between the
tabulator before, which ends at a cell, and the text. -/
def expandTabsAfter (cell : Nat) (part : List Char) : Styled → Styled
  | [] => []
  | g :: gs =>
    if g.char = '\t' then
      let cell := cell + width (' ' :: part).reverse
      let gap := (tabulatorStop - cell % tabulatorStop) % tabulatorStop
      { g with char := ' ' } :: ofChars g.covered (blanks gap) ++ expandTabsAfter (cell + gap) [] gs
    else g :: expandTabsAfter cell (g.char :: part) gs

def expandTabs (t : Styled) : Styled := expandTabsAfter 0 [] t

def trailingBlanks (t : Styled) : Nat := (t.plain.reverse.takeWhile Text.isBlank).length

def dropEnd (n : Nat) (t : Styled) : Styled := t.take (t.length - n)

def trimEnd (t : Styled) : Styled := t.dropEnd t.trailingBlanks

end Styled

end Formwork.Console
