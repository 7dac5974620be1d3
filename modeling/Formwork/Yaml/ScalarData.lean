import Formwork.Document
import Formwork.Number.Reading
import Formwork.Text.Base64
import Formwork.Text.Case
import Formwork.Yaml.Plain
import Formwork.Yaml.Token

/-!
The values that the texts of scalars give: numbers, truth values, dates and octets.
-/

namespace Formwork.Yaml

def baseMarks (base : Nat) : List Char :=
  match base with
  | 2 => ['b', 'B']
  | 8 => ['o', 'O']
  | _ => ['x', 'X']

def integerInBase (base : Nat) (digit : Char → Option Nat) (cs : List Char) : Except Error Int :=
  let (negative, body) := Text.takeSign (Text.trimChars Number.Reading.isWhiteSpace cs)
  let digits :=
    match body with
    | '0' :: mark :: rest => if (baseMarks base).contains mark then rest else body
    | _ => body
  match digits.mapM digit with
  | some (d :: ds) =>
    let n : Nat := Text.ofDigits base (d :: ds)
    .ok (if negative then -n else n)
  | _ => .error (.badInteger (.unreadable base cs))

def digitBelow (base : Nat) (c : Char) : Option Nat := (Text.asciiDigit? c).filter (· < base)

def decimalInteger (cs : List Char) : Except Error Int :=
  (Number.Reading.boundedInt cs).mapError .badInteger

def sexagesimal (parts : List Int) : Int := parts.foldl (fun n part => 60 * n + part) 0

def takeSign? (cs : List Char) : Except Error (Bool × List Char) :=
  match cs with
  | [] => .error .emptyNumber
  | '-' :: rest => .ok (true, rest)
  | '+' :: rest => .ok (false, rest)
  | cs => .ok (false, cs)

/-- The whole number that a scalar gives. -/
def integerOf (cs : List Char) : Except Error Int := do
  let (negative, body) ← takeSign? (cs.filter (· ≠ '_'))
  let magnitude ← match body with
    | [] => .error .emptyNumber
    | ['0'] => pure 0
    | '0' :: 'b' :: digits => integerInBase 2 (digitBelow 2) digits
    | '0' :: 'x' :: digits => integerInBase 16 Text.hexValue? digits
    | '0' :: _ => integerInBase 8 (digitBelow 8) body
    | _ =>
      if body.contains ':' then
        ((Plain.colonParts body).mapM decimalInteger).map sexagesimal
      else decimalInteger body
  return if negative then -magnitude else magnitude

def decimalFloat (cs : List Char) : Except Error Binary64 :=
  match Number.Reading.lenientDecimal? cs with
  | some x => .ok x
  | none => .error (.badFloat cs)

/-- The sum of numbers that count units of growing size, the smallest first. -/
def sumOfUnits (sum : Binary64) (size : Nat) : List Binary64 → Except Error Binary64
  | [] => .ok sum
  | x :: rest =>
    match Binary64.ofInt size with
    | .infinite _ => .error .hugeUnit
    | unit => sumOfUnits (sum.add (x.mul unit)) (60 * size) rest

def floatOf (cs : List Char) : Except Error Binary64 := do
  let word := Text.lowerChars (cs.filter (· ≠ '_'))
  let (negative, body) ← takeSign? word
  let magnitude ←
    if body = ".inf".toList then pure (Binary64.infinite false)
    else if body = ".nan".toList then pure Binary64.nan
    else if body.contains ':' then do
      let parts ← (Plain.colonParts body).mapM decimalFloat
      sumOfUnits Binary64.zero 1 parts.reverse
    else decimalFloat body
  return if negative then magnitude.neg else magnitude

def booleanOf (cs : List Char) : Except Error Bool :=
  let word := Text.lower (String.ofList cs)
  if ["yes", "true", "on"].contains word then .ok true
  else if ["no", "false", "off"].contains word then .ok false
  else .error (.badBoolean word)

/-- The number of minutes of a day. -/
def minutesOfDay : Nat := 24 * 60

def daysOf (year month : Nat) : Nat :=
  if month = 2 then
    if year % 4 = 0 ∧ (year % 100 ≠ 0 ∨ year % 400 = 0) then 29 else 28
  else if [4, 6, 9, 11].contains month then 30
  else 31

/-- Data of a date or a point of time, if there is such a one. The offset of a zone is looked at
first. -/
def timestampOf (cs : List Char) : Except Error Document :=
  match Plain.timestamp? cs with
  | none => .error .noDate
  | some t => do
    if let some minutes := t.time.bind (·.offset) then
      if minutesOfDay ≤ minutes.natAbs then .error (.badOffset minutes)
    if t.year = 0 then .error (.badDate .year t.year)
    if t.month < 1 ∨ 12 < t.month then .error (.badDate .month t.month)
    if t.day < 1 ∨ daysOf t.year t.month < t.day then .error (.badDate .day t.day)
    match t.time with
    | none => .ok (.date t.year t.month t.day)
    | some clock => do
      if 23 < clock.hour then .error (.badDate .hour clock.hour)
      if 59 < clock.minute then .error (.badDate .minute clock.minute)
      if 59 < clock.second then .error (.badDate .second clock.second)
      .ok (.timestamp (String.ofList cs))

/-- Data of a scalar. -/
def scalarData (tag : Tag) (cs : List Char) : Except Error Document := do
  match tag with
  | .str => return .text (String.ofList cs)
  | .null => return .null
  | .bool => return .bool (← booleanOf cs)
  | .int => return .int (← integerOf cs)
  | .float => return .float (← floatOf cs)
  | .timestamp => timestampOf cs
  | .binary =>
    if cs.all fun c => c.toNat < 128 then
      match Text.Base64.decode cs with
      | some octets => return .octets octets
      | none => .error .malformed
    else .error .malformed
  | _ => .error .malformed

end Formwork.Yaml
