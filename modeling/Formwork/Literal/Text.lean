import Formwork.Literal.Expression

/-!
The escapes in a text, and what is wrong with them. Positions count octets, where a character
beyond ASCII counts as an escape of ten.
-/

namespace Formwork.Literal

/-- The escapes that are given by a number of hexadecimal digits, and what messages call them. -/
def numericEscapes : List (Char × Nat × String) :=
  [('x', 2, "\\xXX"), ('u', 4, "\\uXXXX"), ('U', 8, "\\UXXXXXXXX")]

def escapeProblem (position size : Nat) (reason : String) : String :=
  "(unicode error) 'unicodeescape' codec can't decode bytes in position " ++ toString position ++
    "-" ++ toString (position + size - 1) ++ ": " ++ reason

def octetsOf (c : Char) : Nat := if c.toNat < 128 then 1 else 10

/-- Checks the escape behind a backslash, and gives the number of its characters. -/
def checkEscape (position : Nat) : List Char → Except String Nat
  | [] => .ok 0
  | c :: rest =>
    match numericEscapes.lookup c with
    | some (count, form) =>
      let digits := (rest.take count).takeWhile fun d => (Text.hexValue? d).isSome
      let code := Text.ofDigits 16 (digits.filterMap Text.hexValue?)
      if digits.length < count then
        .error (escapeProblem position (digits.length + 2) ("truncated " ++ form ++ " escape"))
      else if 0x10ffff < code then
        .error (escapeProblem position (count + 2) "illegal Unicode character")
      else .ok (count + 1)
    | none =>
      if c ≠ 'N' then .ok 1
      else
        let name := rest.takeWhile (· ≠ '\x7d')
        if rest.head? = some '\x7b' ∧ 1 < name.length ∧ name.length < rest.length then
          .ok (name.length + 2)
        else
          let size := if rest.head? = some '\x7b' then name.length + 2 else 2
          .error (escapeProblem position size "malformed \\N character escape")

def checkEscapes (position skip : Nat) : List Char → Except String Unit
  | [] => .ok ()
  | c :: rest =>
    if 0 < skip then checkEscapes (position + octetsOf c) (skip - 1) rest
    else if c ≠ '\\' then checkEscapes (position + octetsOf c) 0 rest
    else if rest.head?.any fun d => 128 ≤ d.toNat then checkEscapes (position + 6) 0 rest
    else
      match checkEscape position rest with
      | .ok n => checkEscapes (position + 1) n rest
      | .error e => .error e

def checkOctets (position : Nat) (cs : List Char) : Except String Unit :=
  match cs with
  | '\\' :: 'x' :: a :: b :: rest =>
    if (Text.hexValue? a).isSome ∧ (Text.hexValue? b).isSome then checkOctets (position + 4) rest
    else .error ("(value error) invalid \\x escape at position " ++ toString position)
  | '\\' :: 'x' :: _ =>
    .error ("(value error) invalid \\x escape at position " ++ toString position)
  | '\\' :: _ :: rest => checkOctets (position + 2) rest
  | _ :: rest => checkOctets (position + 1) rest
  | [] => .ok ()

def checkText (kind : TextKind) (body : List Char) : Except String Unit := do
  if kind.isBytes && body.any fun c => 128 ≤ c.toNat then
    throw "bytes can only contain ASCII literal characters"
  if kind.isRaw ∨ !body.contains '\\' then return
  if kind.isBytes then checkOctets 0 body
  else checkEscapes 0 0 body

/-- Checks texts next to each other, all of which have to be octets if the first is. -/
def checkTexts (isBytes : Bool) : List (TextKind × List Char) → Except String Unit
  | [] => .ok ()
  | (kind, body) :: rest => do
    checkText kind body
    if kind.isBytes ≠ isBytes then throw "cannot mix bytes and nonbytes literals"
    checkTexts isBytes rest

def joinTexts (texts : List (TextKind × List Char)) : Except String Expression := do
  let isBytes := texts.head?.any (·.1.isBytes)
  checkTexts isBytes texts
  return if texts.any (·.1.isFormatted) then .formatted
    else .constant (if isBytes then .octets else .text)

end Formwork.Literal
