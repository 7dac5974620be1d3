import Formwork.Console.EmojiTable
import Formwork.Text.Blank
import Formwork.Text.Case

/-!
Emoji by name. A name between colons stands for an emoji; names that are not known stay as they
are.
-/

namespace Formwork.Console.Emoji

def find? (name : List Char) : Option (List Char) :=
  (Text.words table.toList).findSome? fun entry =>
    let (key, emoji) := entry.span (· ≠ '=')
    if key = name then some emoji.tail else none

def forms : List (String × Char) := [("-emoji", '\uFE0F'), ("-text", '\uFE0E')]

/-- The name without the ending that asks for a form, and the selector. -/
def splitForm (inner : List Char) : List Char × List Char :=
  match forms.find? fun f => f.1.toList.isSuffixOf inner with
  | some f => (inner.take (inner.length - f.1.length), [f.2])
  | none => (inner, [])

/-- What stands for the text between two colons. -/
def named? (inner : List Char) : Option (List Char) :=
  let (name, selector) := splitForm inner
  (find? (Text.lowerChars name)).map fun emoji => emoji ++ selector

/-- The text between the colon before a text and the next one, where no blank stands between. -/
def inner? (cs : List Char) : Option (List Char) :=
  let inner := cs.takeWhile fun c => c ≠ ':' ∧ !Text.isBlank c
  if (cs.drop inner.length).head? = some ':' then some inner else none

/-- A text with its emoji, of which the first `skip` characters are part of what was replaced. -/
def replaceFrom (skip : Nat) : List Char → List Char
  | [] => []
  | c :: rest =>
    if 0 < skip then replaceFrom (skip - 1) rest
    else if c = ':' then
      match inner? rest with
      | some inner =>
        (named? inner).getD (':' :: inner ++ [':']) ++ replaceFrom (inner.length + 1) rest
      | none => c :: replaceFrom 0 rest
    else c :: replaceFrom 0 rest

def replace (cs : List Char) : List Char := replaceFrom 0 cs

end Formwork.Console.Emoji
