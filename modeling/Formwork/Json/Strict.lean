import Formwork.Number.Limit
import Formwork.Text.Digit
import Formwork.Text.Utf8

/-!
Where a text stops being JSON, by the strict rules that settings files are held to: no half of a
surrogate pair stands alone, and a comma is followed by an item. The text is walked octet by octet
with the open lists and objects on a stack. A fault counts octets, and its line and column do so
too.
-/

namespace Formwork.Json.Strict

inductive Problem
  | endInList
  | endInObject
  | endInText
  | endInValue
  | expectedColon
  | expectedListEnd
  | expectedObjectEnd
  | expectedWord
  | expectedValue
  | badEscape
  | badNumber
  | hugeNumber
  | controlCharacter
  | nameNotText
  | loneSurrogate
  | endInSurrogates
  | trailingComma
  | trailingCharacters
  deriving DecidableEq, Repr

def Problem.message : Problem → String
  | .endInList => "EOF while parsing a list"
  | .endInObject => "EOF while parsing an object"
  | .endInText => "EOF while parsing a string"
  | .endInValue => "EOF while parsing a value"
  | .expectedColon => "expected \x60:\x60"
  | .expectedListEnd => "expected \x60,\x60 or \x60]\x60"
  | .expectedObjectEnd => "expected \x60,\x60 or \x60\x7d\x60"
  | .expectedWord => "expected ident"
  | .expectedValue => "expected value"
  | .badEscape => "invalid escape"
  | .badNumber => "invalid number"
  | .hugeNumber => "number out of range"
  | .controlCharacter =>
    "control character (\\u0000-\\u001F) found while parsing a string"
  | .nameNotText => "key must be a string"
  | .loneSurrogate => "lone leading surrogate in hex escape"
  | .endInSurrogates => "unexpected end of hex escape"
  | .trailingComma => "trailing comma"
  | .trailingCharacters => "trailing characters"

structure Fault where
  problem : Problem
  position : Nat
  deriving DecidableEq, Repr

def fail {α : Type} (problem : Problem) (position : Nat) : Except Fault α :=
  .error ⟨problem, position⟩

def unit (position : Nat) (octets : List Char) : Except Fault Nat :=
  match octets.take 4 with
  | [a, b, c, d] =>
    match [a, b, c, d].findIdx? fun o => (Text.hexValue? o).isNone with
    | some i => fail .badEscape (position + i)
    | none => .ok (Text.ofDigits 16 ([a, b, c, d].filterMap Text.hexValue?))
  | _ => fail .endInText (position + octets.length)

/-- The number of octets of an escape by code units, whose first digit stands at a position. The
first half of a surrogate pair needs the second one behind it. -/
def unitsLength (position : Nat) (octets : List Char) : Except Fault Nat := do
  let high ← unit position octets
  if high < 0xd800 ∨ 0xe000 ≤ high then return 4
  else if 0xdc00 ≤ high then fail .loneSurrogate (position + 3)
  else
    match octets.drop 4 with
    | '\\' :: 'u' :: digits => do
      let low ← unit (position + 6) digits
      if 0xdc00 ≤ low ∧ low < 0xe000 then return 10 else fail .loneSurrogate (position + 9)
    | '\\' :: _ :: _ => fail .endInSurrogates (position + 5)
    | ['\\'] => fail .endInText (position + 5)
    | _ :: _ => fail .endInSurrogates (position + 4)
    | [] => fail .endInText (position + 4)

/-- The position behind the closing quote of a text, of which the first `skip` octets have been
read. -/
def textEnd (skip position : Nat) : List Char → Except Fault Nat
  | [] => fail .endInText position
  | o :: rest =>
    if 0 < skip then textEnd (skip - 1) (position + 1) rest
    else if o = '"' then .ok (position + 1)
    else if o = '\\' then
      match rest with
      | [] => fail .endInText (position + 1)
      | 'u' :: digits => do
        let length ← unitsLength (position + 2) digits
        textEnd (length + 1) (position + 1) rest
      | e :: _ =>
        if "\"\\/bfnrt".toList.contains e then textEnd 1 (position + 1) rest
        else fail .badEscape (position + 1)
    else if o < ' ' then fail .controlCharacter position
    else textEnd 0 (position + 1) rest

def digitCount (position : Nat) (octets : List Char) : Except Fault Nat :=
  match octets, (octets.takeWhile Char.isDigit).length with
  | [], _ => fail .endInValue position
  | _, 0 => fail .badNumber position
  | _, n => .ok n

/-- The number of octets of an exponent, from its letter on. Other octets begin none. -/
def exponentLength (position : Nat) (octets : List Char) : Except Fault Nat :=
  match octets with
  | 'e' :: rest | 'E' :: rest => do
    let sign := if rest.head? = some '-' ∨ rest.head? = some '+' then 1 else 0
    let digits ← digitCount (position + 1 + sign) (rest.drop sign)
    return 1 + sign + digits
  | _ => .ok 0

def fractionLength (position : Nat) (octets : List Char) : Except Fault Nat :=
  match octets with
  | '.' :: rest => do
    let digits ← digitCount (position + 1) rest
    return 1 + digits + (← exponentLength (position + 1 + digits) (rest.drop digits))
  | _ => exponentLength position octets

/-- The number of octets of a word, of which the first one is there. -/
def wordLength (position : Nat) (word octets : List Char) : Except Fault Nat :=
  let same := ((word.zip octets).takeWhile fun p => p.1 = p.2).length
  if same = word.length then .ok same
  else if same = octets.length then fail .endInValue (position + same)
  else fail .expectedWord (position + same)

/-- The number of octets of a number. A zero in front is followed by no other digit. -/
def numberLength (position : Nat) (octets : List Char) : Except Fault Nat := do
  let sign := if octets.head? = some '-' then 1 else 0
  let body := octets.drop sign
  let start := position + sign
  if body.head? = some 'I' then return sign + (← wordLength start "Infinity".toList body)
  else
    let digits ← digitCount start body
    let whole := if body.head? = some '0' then 1 else digits
    if whole < digits then fail .badNumber (start + 1)
    else
      let more ← fractionLength (start + whole) (body.drop whole)
      if more = 0 ∧ Number.longestInteger < sign + whole then
        fail .hugeNumber (position + Number.longestInteger + 1)
      else return sign + whole + more

def atomLength (position : Nat) (octets : List Char) : Except Fault Nat :=
  match octets with
  | 't' :: _ => wordLength position "true".toList octets
  | 'f' :: _ => wordLength position "false".toList octets
  | 'n' :: _ => wordLength position "null".toList octets
  | 'N' :: _ => wordLength position "NaN".toList octets
  | o :: _ =>
    if o.isDigit ∨ o = '-' ∨ o = 'I' then numberLength position octets
    else fail .expectedValue position
  | [] => fail .endInValue position

inductive Container | list | object
  deriving DecidableEq, Repr

/-- What may come at a place: a value, the first or another item of a list, the first or another
name of an object, the colon behind a name, or what follows a value. -/
inductive Expected | value | firstItem | item | firstName | name | colon | follower
  deriving DecidableEq, Repr

def endFault? : Expected → List Container → Option Problem
  | .value, _ | .item, _ | .name, _ => some .endInValue
  | .firstItem, _ => some .endInList
  | .firstName, _ | .colon, _ => some .endInObject
  | .follower, [] => none
  | .follower, .list :: _ => some .endInList
  | .follower, .object :: _ => some .endInObject

/-- A step of the walk: octets to skip, what comes behind them, and what is open there. -/
structure Step where
  length : Nat
  expected : Expected
  containers : List Container

def overText (position : Nat) (rest : List Char) (expected : Expected)
    (containers : List Container) : Except Fault Step := do
  let last ← textEnd 0 (position + 1) rest
  return ⟨last - position, expected, containers⟩

def overValue (position : Nat) (o : Char) (rest : List Char) (containers : List Container) :
    Except Fault Step := do
  match o with
  | '"' => overText position rest .follower containers
  | '[' => return ⟨1, .firstItem, .list :: containers⟩
  | '\x7b' => return ⟨1, .firstName, .object :: containers⟩
  | _ => return ⟨← atomLength position (o :: rest), .follower, containers⟩

/-- The step over what begins with an octet. -/
def step (position : Nat) (o : Char) (rest : List Char) (expected : Expected)
    (containers : List Container) : Except Fault Step :=
  let close : Except Fault Step := .ok ⟨1, .follower, containers.tail⟩
  match expected, containers with
  | .value, _ => overValue position o rest containers
  | .firstItem, _ => if o = ']' then close else overValue position o rest containers
  | .item, _ =>
    if o = ']' then fail .trailingComma position else overValue position o rest containers
  | .firstName, _ =>
    if o = '\x7d' then close
    else if o = '"' then overText position rest .colon containers
    else fail .nameNotText position
  | .name, _ =>
    if o = '\x7d' then fail .trailingComma position
    else if o = '"' then overText position rest .colon containers
    else fail .nameNotText position
  | .colon, _ =>
    if o = ':' then .ok ⟨1, .value, containers⟩ else fail .expectedColon position
  | .follower, [] => fail .trailingCharacters position
  | .follower, .list :: _ =>
    if o = ',' then .ok ⟨1, .item, containers⟩
    else if o = ']' then close
    else fail .expectedListEnd position
  | .follower, .object :: _ =>
    if o = ',' then .ok ⟨1, .name, containers⟩
    else if o = '\x7d' then close
    else fail .expectedObjectEnd position

/-- The first fault of a text, of which the first `skip` octets have been walked over. -/
def faultFrom (skip position : Nat) (expected : Expected) (containers : List Container) :
    List Char → Option Fault
  | [] => (endFault? expected containers).map fun problem => ⟨problem, position⟩
  | o :: rest =>
    if 0 < skip then faultFrom (skip - 1) (position + 1) expected containers rest
    else if [' ', '\t', '\n', '\r'].contains o then
      faultFrom 0 (position + 1) expected containers rest
    else
      match step position o rest expected containers with
      | .error fault => some fault
      | .ok s => faultFrom (s.length - 1) (position + 1) s.expected s.containers rest

def octets (text : List Char) : List Char :=
  (Text.Utf8.encode text).map fun o => Char.ofNat o.toNat

def fault? (text : List Char) : Option Fault := faultFrom 0 0 .value [] (octets text)

/-- A fault in a message, with its line and its column. A break counts as the beginning of the
line that follows it. -/
def Fault.message (text : List Char) (fault : Fault) : String :=
  let octets := octets text
  let before := octets.take (fault.position + 1)
  let line := before.count '\n' + 1
  let column := (before.reverse.takeWhile (· ≠ '\n')).length
  fault.problem.message ++ " at line " ++ toString line ++ " column " ++ toString column

end Formwork.Json.Strict
