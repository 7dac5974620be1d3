import Formwork.CommandLine.Option
import Formwork.Text.Digit

/-!
The words of a command line and what each of them is: an option, perhaps with text attached to it,
or an operand. A long option may be cut short as long as no other begins alike. Behind a double
dash every word is an operand.
-/

namespace Formwork.CommandLine

inductive UsageError
  | ambiguous (word : String) (names : List String)
  | missingValue (option : Switch)
  | needlessValue (option : Switch) (value : String)
  | notInteger (option : Switch) (value : String)
  | notAmong (option : Switch) (value : String) (choices : List String)
  | missingSpecification
  | unknownWords (words : List String)
  deriving DecidableEq, Repr

/-- What a word of a command line is. What is attached to the name of an option starts with an
equals sign or, behind a short name, with its own first character. -/
inductive Word
  | separator
  | operand (text : String)
  | option (s : Switch) (name : String) (attached : List Char)
  | unknown (text : String)
  deriving DecidableEq, Repr

/-- The text before the first equals sign, and the text from there on. -/
def splitEquals (cs : List Char) : List Char × List Char := cs.span (· ≠ '=')

def candidates (cs : List Char) : List (Switch × String × List Char) :=
  if "--".toList.isPrefixOf cs then
    let (before, behind) := splitEquals cs
    (Switch.spellings.filter fun (name, _) => before.isPrefixOf name.toList).map fun (name, s) =>
      (s, name, behind)
  else
    (Switch.spellings.filter fun (name, _) => name.toList = cs.take 2).map fun (name, s) =>
      (s, name, cs.drop 2)

def endsInDigits (cs : List Char) : Bool :=
  let isDigit := fun c => (Text.digitValue? c).isSome
  cs.head?.any isDigit && (cs.dropWhile isDigit).isPrefixOf ['\n']

/-- A minus and decimal digits, among which may stand one point that digits follow. -/
def isNegativeNumber : List Char → Bool
  | '-' :: rest =>
    match rest.dropWhile fun c => (Text.digitValue? c).isSome with
    | '.' :: fraction => endsInDigits fraction
    | _ => endsInDigits rest
  | _ => false

/-- What a word is, apart from the double dash. -/
def classify (text : String) : Except UsageError Word :=
  let cs := text.toList
  if cs.head? ≠ some '-' ∨ text = "-" then .ok (.operand text)
  else
    let (before, behind) := splitEquals cs
    match Switch.ofName? (String.ofList before) with
    | some s => .ok (.option s (String.ofList before) behind)
    | none =>
      match candidates cs with
      | [(s, name, attached)] => .ok (.option s name attached)
      | [] =>
        if isNegativeNumber cs || cs.contains ' ' then .ok (.operand text)
        else .ok (.unknown text)
      | several => .error (.ambiguous text (several.map fun c => c.2.1))

def Word.ofTexts : List String → Except UsageError (List Word)
  | [] => .ok []
  | text :: rest =>
    if text = "--" then .ok (.separator :: rest.map .operand)
    else do return (← classify text) :: (← Word.ofTexts rest)

def Word.texts : List Word → List String
  | [] => []
  | .separator :: rest => "--" :: Word.texts rest
  | .operand text :: rest | .unknown text :: rest => text :: Word.texts rest
  | .option _ name _ :: rest => name :: Word.texts rest

end Formwork.CommandLine
