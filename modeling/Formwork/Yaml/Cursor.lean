import Formwork.Text.Lines

/-!
A place in a YAML text: what follows it, and where it is. Line feeds are the only breaks of the
host format that remain in a text, but YAML has three more break characters of its own.
-/

namespace Formwork.Yaml

def isBreak (c : Char) : Bool := c = '\n' || c = '\x85' || c = '\u2028' || c = '\u2029'

def isGap (c : Char) : Bool := c = ' ' || c = '\t'

def isSpace (c : Char) : Bool := isGap c || isBreak c

def isAllowed (c : Char) : Bool :=
  let n := c.toNat
  n == 9 || n == 10 || n == 13 || (0x20 ≤ n && n ≤ 0x7e) || n == 0x85 ||
    (0xa0 ≤ n && n ≤ 0xd7ff) || (0xe000 ≤ n && n ≤ 0xfffd) || 0x10000 ≤ n

/-- A place in a text. The byte order mark takes up no column. -/
structure Cursor where
  rest : List Char
  index : Nat := 0
  line : Nat := 0
  column : Nat := 0
  deriving Inhabited

namespace Cursor

def peek (c : Cursor) : Option Char := c.rest.head?

def peekAt (c : Cursor) (n : Nat) : Option Char := c.rest[n]?

def atEnd (c : Cursor) : Bool := c.rest.isEmpty

def next (c : Cursor) : Cursor :=
  match c.rest with
  | [] => c
  | ch :: rest =>
    if isBreak ch then ⟨rest, c.index + 1, c.line + 1, 0⟩
    else ⟨rest, c.index + 1, c.line, if ch = '\uFEFF' then c.column else c.column + 1⟩

def skip (c : Cursor) : Nat → Cursor
  | 0 => c
  | n + 1 => c.next.skip n

/-- The characters of a class from here on, and the place behind them. -/
def span (c : Cursor) (p : Char → Bool) : List Char × Cursor :=
  let cs := c.rest.takeWhile p
  (cs, c.skip cs.length)

def skipBlanks (c : Cursor) : Cursor := (c.span (· = ' ')).2

def skipGaps (c : Cursor) : Cursor := (c.span isGap).2

def skipComment (c : Cursor) : Cursor :=
  if c.peek = some '#' then (c.span fun ch => !isBreak ch).2 else c

def atLineEnd (c : Cursor) : Bool := c.rest.head?.all isBreak

/-- Whether a word of one character ends some characters ahead. -/
def endsAt (c : Cursor) (n : Nat) : Bool := (c.peekAt n).all isSpace

def atBlankOrLineEnd (c : Cursor) : Bool := c.rest.head?.all fun ch => ch = ' ' || isBreak ch

/-- The break that stands here, as it counts in a scalar, and the place behind it. -/
def takeBreak? (c : Cursor) : Option (Char × Cursor) :=
  match c.rest with
  | ch :: _ =>
    if isBreak ch then some (if ch = '\x85' then '\n' else ch, c.next) else none
  | [] => none

def skipBreak (c : Cursor) : Cursor := if c.peek.any isBreak then c.next else c

def atMarker (c : Cursor) : Bool :=
  (['-', '-', '-'].isPrefixOf c.rest || ['.', '.', '.'].isPrefixOf c.rest) && c.endsAt 3

end Cursor

end Formwork.Yaml
