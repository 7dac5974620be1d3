import Formwork.Console.CellWidthTable
import Formwork.Text.CaseTable

/-!
The width of text on a terminal, in cells. Most characters take one cell; marks that combine with
the character before them, and controls, take none, and wide characters take two. A joiner makes
one picture of its two neighbours, and a selector asks for the wide form of the character before
it.
-/

namespace Formwork.Console

def blanks (n : Nat) : List Char := List.replicate n ' '

def cells (c : Char) : Nat :=
  if Text.inIntervals zeroWidthIntervals c.toNat then 0
  else if Text.inIntervals doubleWidthIntervals c.toNat then 2
  else 1

/-- The mark that joins two characters. -/
def joiner : Char := '\u200d'

/-- The mark that selects the emoji form of a character. -/
def selector : Char := '\ufe0f'

/-- Whether the emoji form of a character is wider than the character. -/
def isWidened (c : Char) : Bool := Text.inIntervals widenedIntervals c.toNat

def widthAfter (last : Option Char) : List Char → Nat
  | [] => 0
  | c :: cs =>
    if c = joiner then
      match cs with
      | [] => 0
      | _ :: rest => widthAfter last rest
    else if c = selector then (if last.any isWidened then 1 else 0) + widthAfter none cs
    else cells c + widthAfter (if cells c = 0 then last else some c) cs

def width (cs : List Char) : Nat := widthAfter none cs

/-- Characters that are never parted, and the cells that they take together. -/
structure Grapheme where
  chars : List Char
  size : Nat
  deriving DecidableEq, Repr

namespace Grapheme

def ofChar (c : Char) : Grapheme := ⟨[c], cells c⟩

def attach (g : Grapheme) (cs : List Char) : Grapheme := { g with chars := g.chars ++ cs }

/-- The graphemes of a text after the graphemes `before`, which stand in reverse, where `last` is
the last character with a width. -/
def splitAfter (before : List Grapheme) (last : Option Char) : List Char → List Grapheme
  | [] => before.reverse
  | c :: cs =>
    match before with
    | [] => splitAfter [ofChar c] (if cells c = 0 then last else some c) cs
    | g :: gs =>
      if c = joiner then
        match cs with
        | [] => (g.attach [c] :: gs).reverse
        | d :: rest => splitAfter (g.attach [c, d] :: gs) last rest
      else if c = selector then
        if last.any isWidened then
          splitAfter ({ g.attach [c] with size := g.size + 1 } :: gs) none cs
        else splitAfter (g.attach [c] :: gs) last cs
      else if cells c = 0 then splitAfter (g.attach [c] :: gs) last cs
      else splitAfter (ofChar c :: g :: gs) (some c) cs

/-- The graphemes of a text. Only the first one may take no cells. -/
def split (cs : List Char) : List Grapheme := splitAfter [] none cs

/-- The beginning of a text that takes just `limit` cells; a blank stands for half of a wide
character. -/
def take : (limit : Nat) → List Grapheme → List Char
  | _, [] => []
  | limit, g :: gs =>
    if g.size ≤ limit then g.chars ++ take (limit - g.size) gs else blanks limit

/-- The pieces of a text that take at most `limit` cells each, where `size` cells of the first
piece are taken by `piece`. A wide character has a piece to itself where it does not fit. -/
def chopAfter (limit size : Nat) (piece : List Char) : List Grapheme → List (List Char)
  | [] => if size = 0 then [] else [piece]
  | g :: gs =>
    if limit < size + g.size then piece :: chopAfter limit g.size g.chars gs
    else chopAfter limit (size + g.size) (piece ++ g.chars) gs

end Grapheme

def fit (limit : Nat) (cs : List Char) : List Char :=
  if limit = 0 then []
  else if width cs ≤ limit then cs ++ blanks (limit - width cs)
  else Grapheme.take limit (Grapheme.split cs)

def chop (limit : Nat) (word : List Char) : List (List Char) :=
  Grapheme.chopAfter limit 0 [] (Grapheme.split word)

end Formwork.Console
