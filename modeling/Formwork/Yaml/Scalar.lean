import Formwork.Text.Digit
import Formwork.Yaml.Cursor
import Formwork.Yaml.Token

/-!
The four kinds of scalars: plain, quoted, literal and folded. Line breaks inside a scalar are
folded: one alone becomes a blank, and of several the first is dropped.
-/

namespace Formwork.Yaml

/-- The breaks that remain of a first one and those that follow it. -/
def foldBreaks (first : Char) (more : List Char) : List Char :=
  if first ≠ '\n' then first :: more
  else if more.isEmpty then [' ']
  else more

/-- The number of characters that belong to a plain scalar without a gap. -/
def plainLength (inFlow : Bool) : List Char → Nat
  | [] => 0
  | ch :: rest =>
    let endsAfterColon :=
      rest.head?.all fun next =>
        isSpace next || (inFlow && [',', '[', ']', '\x7b', '\x7d'].contains next)
    if isSpace ch then 0
    else if ch = ':' && endsAfterColon then 0
    else if inFlow && [',', '?', '[', ']', '\x7b', '\x7d'].contains ch then 0
    else plainLength inFlow rest + 1

/-- The outcome of looking for the next part of a plain scalar: what to put between the parts,
and whether a line has ended. -/
structure PlainGap where
  filling : List Char
  crossesLine : Bool
  cursor : Cursor

/-- Empty lines and indentation in front of the next part. Nothing follows a marker. -/
def plainBreaks : (fuel : Nat) → (breaks : List Char) → Cursor → Option (List Char) × Cursor
  | 0, breaks, c => (some breaks.reverse, c)
  | fuel + 1, breaks, c =>
    let c := c.skipBlanks
    match c.takeBreak? with
    | none => (some breaks.reverse, c)
    | some (br, c) => if c.atMarker then (none, c) else plainBreaks fuel (br :: breaks) c

/-- What lies between a part of a plain scalar and the next one. -/
def plainGap (c : Cursor) : PlainGap :=
  let (blanks, c) := c.span (· = ' ')
  match c.takeBreak? with
  | none => ⟨blanks, false, c⟩
  | some (br, c) =>
    if c.atMarker then ⟨[], true, c⟩
    else
      match plainBreaks (c.rest.length + 1) [] c with
      | (none, c) => ⟨[], true, c⟩
      | (some breaks, c) => ⟨foldBreaks br breaks, true, c⟩

/-- A plain scalar: its characters, whether its end has crossed a line, and the place behind it.
Lines that are not indented far enough do not continue it. -/
def plainFrom (inFlow : Bool) (indent : Int) :
    (fuel : Nat) → (text filling : List Char) → (crossed : Bool) → Cursor →
      List Char × Bool × Cursor
  | 0, text, _, crossed, c => (text, crossed, c)
  | fuel + 1, text, filling, crossed, c =>
    let n := plainLength inFlow c.rest
    if n = 0 ∨ c.peek = some '#' then (text, crossed, c)
    else
      let text := text ++ filling ++ c.rest.take n
      let gap := plainGap (c.skip n)
      let c := gap.cursor
      if gap.filling.isEmpty ∨ c.peek = some '#' ∨ (!inFlow ∧ (c.column : Int) < indent) then
        (text, gap.crossesLine, c)
      else plainFrom inFlow indent fuel text gap.filling gap.crossesLine c

def plain (inFlow : Bool) (indent : Int) (c : Cursor) : List Char × Bool × Cursor :=
  plainFrom inFlow indent (c.rest.length + 1) [] [] false c

/-- The code point that a letter stands for behind a backslash. -/
def escapeOf? (c : Char) : Option Nat :=
  ([('0', 0), ('a', 7), ('b', 8), ('t', 9), ('\t', 9), ('n', 10), ('v', 11), ('f', 12), ('r', 13),
    ('e', 0x1b), (' ', 0x20), ('"', 0x22), ('\\', 0x5c), ('/', 0x2f), ('N', 0x85), ('_', 0xa0),
    ('L', 0x2028), ('P', 0x2029)] : List (Char × Nat)).lookup c

/-- The number of hexadecimal digits that follow a letter behind a backslash. -/
def escapeDigits? (c : Char) : Option Nat :=
  ([('x', 2), ('u', 4), ('U', 8)] : List (Char × Nat)).lookup c

def hexNumber? (n : Nat) (cs : List Char) : Option Nat :=
  if cs.length < n then none
  else ((cs.take n).mapM Text.hexValue?).map (Text.ofDigits 16)

/-- Empty lines inside a quoted scalar, where no marker may stand. -/
def quotedBreaks : (fuel : Nat) → (breaks : List Char) → Cursor → Except Error (List Char × Cursor)
  | 0, _, _ => .error .malformed
  | fuel + 1, breaks, c =>
    if c.atMarker then .error .malformed
    else
      let c := c.skipGaps
      match c.takeBreak? with
      | some (br, c) => quotedBreaks fuel (br :: breaks) c
      | none => .ok (breaks.reverse, c)

/-- The text of an escape that begins with the backslash that stands here. -/
def escapeAt (c : Cursor) : Except Error (List Char × Cursor) :=
  let c := c.next
  match c.rest with
  | [] => .error .malformed
  | e :: more =>
    match escapeOf? e, escapeDigits? e with
    | some code, _ => .ok ([Text.charOfCode code], c.next)
    | none, some n =>
      match hexNumber? n more with
      | none => .error .malformed
      | some code =>
        if 0x7fffffff < code then .error .hugeCharacter
        else if 0x10ffff < code then .error .badCharacter
        else .ok ([Text.charOfCode code], c.skip (n + 1))
    | none, none =>
      match c.takeBreak? with
      | none => .error .malformed
      | some (_, c) => do
        let (breaks, c) ← quotedBreaks (c.rest.length + 1) [] c
        return (breaks, c)

/-- The characters of a quoted scalar up to a gap or to its quote. -/
def quotedWord (quote : Char) :
    (fuel : Nat) → (text : List Char) → Cursor → Except Error (List Char × Cursor)
  | 0, text, c => .ok (text, c)
  | fuel + 1, text, c =>
    match c.rest with
    | [] => .ok (text, c)
    | ch :: more =>
      if isSpace ch then .ok (text, c)
      else if ch = quote then
        if quote = '\'' ∧ more.head? = some '\'' then
          quotedWord quote fuel (text ++ [ch]) (c.skip 2)
        else .ok (text, c)
      else if ch = '\\' ∧ quote = '"' then do
        let (escaped, c) ← escapeAt c
        quotedWord quote fuel (text ++ escaped) c
      else quotedWord quote fuel (text ++ [ch]) c.next

def quotedGap (c : Cursor) : Except Error (List Char × Cursor) :=
  let (gap, c) := c.span isGap
  match c.takeBreak? with
  | none => if c.atEnd then .error .malformed else .ok (gap, c)
  | some (br, c) => do
    let (breaks, c) ← quotedBreaks (c.rest.length + 1) [] c
    return (foldBreaks br breaks, c)

def quotedFrom (quote : Char) :
    (fuel : Nat) → (text : List Char) → Cursor → Except Error (List Char × Cursor)
  | 0, _, _ => .error .malformed
  | fuel + 1, text, c => do
    let (text, c) ← quotedWord quote (c.rest.length + 1) text c
    if c.peek = some quote then return (text, c.next)
    else
      let (gap, c) ← quotedGap c
      quotedFrom quote fuel (text ++ gap) c

def quoted (quote : Char) (c : Cursor) : Except Error (List Char × Cursor) :=
  quotedFrom quote (c.rest.length + 1) [] c.next

/-- What becomes of the breaks at the end of a block scalar: one is kept, none, or all. -/
inductive Chomping | clip | strip | keep
  deriving DecidableEq, Repr

def chompingOf? (c : Option Char) : Option Chomping :=
  match c with
  | some '+' => some .keep
  | some '-' => some .strip
  | _ => none

def digitOf? (c : Option Char) : Option Nat := c.bind Text.asciiDigit?

/-- The sign and the digit of the header of a block scalar, in either order. -/
def blockHeader (c : Cursor) : Except Error (Chomping × Option Nat × Cursor) :=
  let found : Chomping × Option Nat × Cursor :=
    match chompingOf? c.peek with
    | some chomping =>
      match digitOf? c.next.peek with
      | some d => (chomping, some d, c.skip 2)
      | none => (chomping, none, c.next)
    | none =>
      match digitOf? c.peek with
      | none => (.clip, none, c)
      | some d =>
        match chompingOf? c.next.peek with
        | some chomping => (chomping, some d, c.skip 2)
        | none => (.clip, some d, c.next)
  if found.2.1 = some 0 ∨ !found.2.2.atBlankOrLineEnd then .error .malformed else .ok found

def emptyLineRest (c : Cursor) : Except Error Cursor :=
  let c := c.skipBlanks.skipComment
  if c.atLineEnd then .ok c.skipBreak else .error .malformed

/-- The empty lines in front of a block scalar, and the deepest indentation among them and the
first line with text. -/
def blockIndent : (fuel : Nat) → (breaks : List Char) → (deepest : Nat) → Cursor →
    List Char × Nat × Cursor
  | 0, breaks, deepest, c => (breaks.reverse, deepest, c)
  | fuel + 1, breaks, deepest, c =>
    let c := c.skipBlanks
    let deepest := max deepest c.column
    match c.takeBreak? with
    | some (br, c) => blockIndent fuel (br :: breaks) deepest c
    | none => (breaks.reverse, deepest, c)

def skipToColumn (indent : Nat) (c : Cursor) : Cursor :=
  let blanks := (c.rest.takeWhile (· = ' ')).length
  c.skip (min blanks (indent - c.column))

/-- The empty lines in front of the next line of a block scalar. -/
def blockBreaks (indent : Nat) : (fuel : Nat) → (breaks : List Char) → Cursor → List Char × Cursor
  | 0, breaks, c => (breaks.reverse, c)
  | fuel + 1, breaks, c =>
    let c := skipToColumn indent c
    match c.takeBreak? with
    | some (br, c) => blockBreaks indent fuel (br :: breaks) c
    | none => (breaks.reverse, c)

/-- The lines of a block scalar: the text, the break behind its last line, and the breaks that
follow. In a folded scalar lines without leading blanks are joined. -/
def blockLines (folded : Bool) (indent : Nat) :
    (fuel : Nat) → (text breaks : List Char) → Cursor → List Char × List Char × List Char × Cursor
  | 0, text, breaks, c => (text, [], breaks, c)
  | fuel + 1, text, breaks, c =>
    let startsWithText := !c.peek.any isGap
    let (line, c) := c.span fun ch => !isBreak ch
    let text := text ++ breaks ++ line
    let (ending, c) :=
      match c.takeBreak? with
      | some (br, c) => ([br], c)
      | none => ([], c)
    let (breaks, c) := blockBreaks indent (c.rest.length + 1) [] c
    if c.column = indent ∧ !c.atEnd then
      let joined :=
        if folded && ending == ['\n'] && startsWithText && !c.peek.any isGap then
          if breaks.isEmpty then [' '] else []
        else ending
      blockLines folded indent fuel (text ++ joined) breaks c
    else (text, ending, breaks, c)

/-- A literal or folded scalar that begins here, inside a block with an indentation. -/
def block (folded : Bool) (indent : Int) (c : Cursor) : Except Error (List Char × Cursor) := do
  let (chomping, increment, c) ← blockHeader c.next
  let c ← emptyLineRest c
  let least := (max (indent + 1) 1).toNat
  let (breaks, indent, c) :=
    match increment with
    | none =>
      let (breaks, deepest, c) := blockIndent (c.rest.length + 1) [] 0 c
      (breaks, max least deepest, c)
    | some n =>
      let indent := least + n - 1
      let (breaks, c) := blockBreaks indent (c.rest.length + 1) [] c
      (breaks, indent, c)
  let (text, ending, breaks, c) :=
    if c.column = indent ∧ !c.atEnd then
      blockLines folded indent (c.rest.length + 1) [] breaks c
    else ([], [], breaks, c)
  let text := text ++ (if chomping = .strip then [] else ending)
  return (text ++ (if chomping = .keep then breaks else []), c)

end Formwork.Yaml
