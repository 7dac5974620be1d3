import Formwork.Console.Emoji
import Formwork.Console.Style
import Formwork.Console.Styled
import Formwork.Literal.Evaluate
import Formwork.Value

/-!
Markup in console text. A tag in brackets switches a style on, and a tag that begins with a slash
switches it off again; a backslash before a bracket makes it plain text. Escaped text is read as
itself.
-/

namespace Formwork.Console

/-- Why a thing is not shown: its text is no markup, or it is no text at all. Positions are counted
in characters. Of an action what is wrong with its arguments is kept, and its whole text. -/
inductive RenderError
  | nothingToClose (position : Nat)
  | neverOpened (tag : String) (position : Nat)
  | badAction (arguments text : String) (problem : Literal.Problem)
  | share (fault : Number.Reading.IntegerFault)
  | notText (v : Value)

def RenderError.message : RenderError → String
  | .nothingToClose position =>
    "closing tag '[/]' at position " ++ toString position ++ " has nothing to close"
  | .neverOpened tag position =>
    "closing tag '" ++ tag ++ "' at position " ++ toString position ++
      " doesn't match any open tag"
  | .badAction arguments text (.noExpression message) =>
    "error parsing " ++ Text.quoted arguments ++ " in " ++ Text.quoted text ++ "; " ++ message
  | .badAction _ text (.noData message) =>
    "error parsing " ++ Text.quoted text ++ "; " ++ message
  | .share fault => fault.message
  | .notText v =>
    "Unable to render " ++ v.inspect ++
      "; A str, Segment or object with __rich_console__ method is required"

/-- A tag that switches a style on: its name, and what stands after an equals sign. -/
structure Tag where
  name : String
  parameters : Option String
  deriving DecidableEq, Repr

def Tag.style (t : Tag) : String :=
  match t.parameters with
  | none => t.name
  | some parameters => t.name ++ " " ++ parameters

/-- What markup shows, and the styles that are switched on in it, with the number of characters
before each. -/
structure Rendered where
  text : Styled := []
  styles : List (Nat × String) := []
  deriving DecidableEq, Repr

namespace Markup

def startsTag (c : Char) : Bool := ('a' ≤ c && c ≤ 'z') || c == '#' || c == '/' || c == '@'

/-- What stands between the brackets of a tag, given the text after the opening bracket. -/
def tagBody? : List Char → Option (List Char)
  | [] => none
  | c :: rest =>
    let inner := rest.takeWhile fun d => d ≠ ']' ∧ d ≠ '['
    if startsTag c && (rest.drop inner.length).head? == some ']' then some (c :: inner) else none

structure Escapable where
  backslashes : Nat
  body : List Char
  deriving DecidableEq, Repr

def Escapable.length (m : Escapable) : Nat := m.backslashes + m.body.length + 2

def Escapable.tag (m : Escapable) : List Char := '[' :: m.body ++ [']']

def escapable? (cs : List Char) : Option Escapable :=
  let backslashes := (cs.takeWhile (· = '\\')).length
  match cs.drop backslashes with
  | '[' :: rest => (tagBody? rest).map fun body => ⟨backslashes, body⟩
  | _ => none

/-- A part of a text with markup: plain text, or the inside of a tag with its position. -/
inductive Piece
  | plain (cs : List Char)
  | tag (position : Nat) (body : List Char)
  deriving DecidableEq, Repr

/-- Backslashes stand in pairs, each for one of them. One that is left over makes the tag plain
text. -/
def Escapable.pieces (m : Escapable) (position : Nat) : List Piece :=
  (if 2 ≤ m.backslashes then [.plain (List.replicate (m.backslashes / 2) '\\')] else []) ++
    [if m.backslashes % 2 = 1 then .plain m.tag
      else .tag (position + m.backslashes) m.body]

def flush (plain : List Char) : List Piece :=
  if plain.isEmpty then [] else [.plain plain.reverse]

/-- The pieces of a text at a position, of which the first `skip` characters belong to a piece
before, and which continues the text `plain`. -/
def piecesFrom (position skip : Nat) (plain : List Char) : List Char → List Piece
  | [] => flush plain
  | c :: rest =>
    if 0 < skip then piecesFrom (position + 1) (skip - 1) plain rest
    else
      match escapable? (c :: rest) with
      | some m =>
        flush plain ++ m.pieces position ++ piecesFrom (position + 1) (m.length - 1) [] rest
      | none => piecesFrom (position + 1) 0 (c :: plain) rest

def pieces (cs : List Char) : List Piece := piecesFrom 0 0 [] cs

def unescapeBrackets : List Char → List Char
  | [] => []
  | '\\' :: '[' :: rest => '[' :: unescapeBrackets rest
  | c :: rest => c :: unescapeBrackets rest

def isDropped (c : Char) : Bool := [7, 8, 11, 12, 13].contains c.toNat

def shown (plain : List Char) : List Char :=
  (Emoji.replace (unescapeBrackets plain)).filter fun c => !isDropped c

/-- The inside of a tag: the name before an equals sign, and what stands after it. -/
def splitTag (body : List Char) : String × Option String :=
  let name := body.takeWhile (· ≠ '=')
  (String.ofList name,
    (body[name.length]?).map fun _ => String.ofList (body.drop (name.length + 1)))

def canonical (name : String) : Except RenderError String :=
  (Style.canonical name).mapError .share

/-- A tag that is open, and the number of characters that are shown before it. -/
structure OpenTag where
  start : Nat
  tag : Tag
  deriving DecidableEq, Repr

/-- Takes the tag that was opened last from the open ones, or the last one of a name. -/
def close? (name : Option String) (opened : List OpenTag) : Option (OpenTag × List OpenTag) :=
  match opened.find? fun o => name.all (o.tag.name == ·) with
  | none => none
  | some o => some (o, opened.erase o)

/-- The tag that a closing tag closes and those that stay open, where `name` is what stands after
the slash. -/
def closeTag (opened : List OpenTag) (position : Nat) (body : List Char) (name : String) :
    Except RenderError (OpenTag × List OpenTag) := do
  if name = "" then
    match close? none opened with
    | some closed => return closed
    | none => throw (.nothingToClose position)
  else
    match close? (some (← canonical name)) opened with
    | some closed => return closed
    | none => throw (.neverOpened ("[" ++ String.ofList body ++ "]") position)

/-- Arguments in brackets behind the name of the one who handles an action, or the whole text if
it has another form. A name alone has no arguments. -/
def actionArguments (text : List Char) : List Char :=
  let rest := text.dropWhile fun c => Text.isWordChar c || c = '.'
  if rest.isEmpty then "()".toList
  else if 2 ≤ rest.length ∧ rest.head? = some '(' ∧ rest.getLast? = some ')' ∧
      !rest.contains '\n' then rest
  else text

/-- The style that a tag switches on when it is closed, if it is not an action. What an action is
given has to be literals. -/
def closedStyle (tag : Tag) : Except RenderError (Option String) :=
  if tag.name.toList.head? ≠ some '@' then .ok (some tag.style)
  else
    match tag.parameters with
    | none | some "" => .ok none
    | some parameters =>
      let arguments := String.ofList (actionArguments (Text.strip parameters).toList)
      match Literal.check arguments with
      | .ok () => .ok none
      | .error problem => .error (.badAction arguments parameters problem)

/-- What pieces show, given the number of characters that are shown before them and the tags that
are open there, innermost first. A style begins or ends at every tag. Styles are listed in the
order in which they end. -/
def renderFrom (length : Nat) (opened : List OpenTag) : List Piece → Except RenderError Rendered
  | [] => .ok { styles := opened.map fun o => (o.start, o.tag.style) }
  | .plain cs :: rest => do
    let cs := shown cs
    let r ← renderFrom (length + cs.length) opened rest
    let bounded := !opened.isEmpty || (r.text.isEmpty && !rest.isEmpty)
    return { r with text := Styled.ofChars bounded cs ++ r.text }
  | .tag position body :: rest => do
    let (name, parameters) := splitTag body
    match name.toList with
    | '/' :: name =>
      let (closed, opened) ← closeTag opened position body (Text.strip (String.ofList name))
      let style ← closedStyle closed.tag
      let r ← renderFrom length opened rest
      return {
        text := r.text.opened
        styles := (style.map (closed.start, ·)).toList ++ r.styles }
    | _ =>
      let tag : Tag := ⟨← canonical name, parameters⟩
      let r ← renderFrom length (⟨length, tag⟩ :: opened) rest
      return { r with text := r.text.opened }

/-- What markup shows. Styles are looked up from left to right, and at one place the one that ends
last comes first. -/
def render (markup : String) : Except RenderError Rendered := do
  let r ← renderFrom 0 [] (pieces markup.toList)
  return { r with styles := r.styles.reverse.mergeSort fun a b => a.1 ≤ b.1 }

/-- Checks a style that a tag asks for, with its parameters. Words that name no style are passed
over. -/
def checkStyle (text : String) : Except RenderError Unit :=
  match Style.read text with
  | .error (.share fault) => .error (.share fault)
  | _ => .ok ()

end Markup

/-- The text that is shown, once every style in it has been looked up. -/
def Rendered.resolve (r : Rendered) : Except RenderError Styled := do
  r.styles.forM fun style => Markup.checkStyle style.2
  return r.text

namespace Markup

/-- Backslashes are doubled and one is added before every tag, from a position where `skip` more
characters belong to the tag before. -/
def escapeFrom (skip : Nat) : List Char → List Char
  | [] => []
  | c :: rest =>
    if 0 < skip then escapeFrom (skip - 1) rest
    else
      match escapable? (c :: rest) with
      | some m =>
        List.replicate (2 * m.backslashes + 1) '\\' ++ m.tag ++ escapeFrom (m.length - 1) rest
      | none => c :: escapeFrom 0 rest

def endsWithBackslash (cs : List Char) : Bool :=
  match cs.reverse with
  | '\\' :: '\\' :: _ => false
  | '\\' :: _ => true
  | _ => false

/-- Markup that shows a text as it is. A single backslash at the end is doubled, so that it does
not meet what follows. -/
def escape (s : String) : String :=
  let escaped := escapeFrom 0 s.toList
  String.ofList (if endsWithBackslash escaped then escaped ++ ['\\'] else escaped)

end Markup

end Formwork.Console
