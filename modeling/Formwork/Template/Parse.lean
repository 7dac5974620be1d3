import Formwork.Template.Basic

/-!
Templates given as text. Text stands for itself, and two braces on either side enclose a name,
its members, and the filters that are applied to it.
-/

namespace Formwork.Template

def isNameChar (c : Char) : Bool := c.isAlphanum || c = '_'

/-- A word and what follows it, without the blanks around the word. -/
def takeName (cs : List Char) : String × List Char :=
  let cs := cs.dropWhile Char.isWhitespace
  (String.ofList (cs.takeWhile isNameChar),
    (cs.dropWhile isNameChar).dropWhile Char.isWhitespace)

def Filter.ofName? : String → Option Filter
  | "class_form" => some .classForm
  | "path_form" => some .pathForm
  | "label_form" => some .labelForm
  | "ts_literal" => some .literal
  | _ => none

/-- The members and filters that follow an expression, up to the end of the text. -/
def parseSuffixes : (fuel : Nat) → Expr → List Char → Option Expr
  | 0, _, _ => none
  | fuel + 1, e, cs =>
    match cs with
    | [] => some e
    | '.' :: rest =>
      let (name, rest) := takeName rest
      if name = "" then none else parseSuffixes fuel (.member e name) rest
    | '|' :: rest =>
      let (name, rest) := takeName rest
      match Filter.ofName? name with
      | some filter => parseSuffixes fuel (.filtered e filter) rest
      | none => none
    | _ => none

def parseExpr (cs : List Char) : Option Expr :=
  let (name, rest) := takeName cs
  if name = "" then none else parseSuffixes (rest.length + 1) (.named name) rest

/-- Splits a text at the first pair of characters. -/
def splitAt (c : Char) : List Char → Option (List Char × List Char)
  | a :: b :: rest =>
    if a = c ∧ b = c then some ([], rest)
    else (splitAt c (b :: rest)).map fun (before, after) => (a :: before, after)
  | _ => none

def parsePieces : (fuel : Nat) → List Char → Option (List Piece)
  | 0, _ => none
  | fuel + 1, cs =>
    match splitAt '\x7b' cs with
    | none => some [.text (String.ofList cs)]
    | some (before, rest) => do
      let (inside, after) ← splitAt '\x7d' rest
      let e ← parseExpr inside
      let more ← parsePieces fuel after
      return .text (String.ofList before) :: .value e :: more

def parse? (name : String) (cs : List Char) : Option Template :=
  (parsePieces (cs.length + 1) cs).map fun pieces => { name, pieces }

end Formwork.Template
