import Formwork.Document
import Formwork.Number.Reading

/-!
JSON read into a document. The decoder accepts the words for numbers that are not finite and
unpaired surrogates; of two members with one name the last gives the value. An error carries the
place of the text where it was found.
-/

namespace Formwork.Json

inductive Problem
  | expectedValue
  | expectedName
  | expectedColon
  | expectedComma
  | extraData
  | controlCharacter
  | unterminated
  | badEscape
  | badUnitEscape
  | byteOrderMark
  deriving DecidableEq, Repr

def Problem.message : Problem → String
  | .expectedValue => "Expecting value"
  | .expectedName => "Expecting property name enclosed in double quotes"
  | .expectedColon => "Expecting ':' delimiter"
  | .expectedComma => "Expecting ',' delimiter"
  | .extraData => "Extra data"
  | .controlCharacter => "Invalid control character at"
  | .unterminated => "Unterminated string starting at"
  | .badEscape => "Invalid \\escape"
  | .badUnitEscape => "Invalid \\uXXXX escape"
  | .byteOrderMark => "Unexpected UTF-8 BOM (decode using utf-8-sig)"

inductive Error
  | syntactic (problem : Problem) (position : Nat)
  | integer (fault : Number.Reading.IntegerFault)
  deriving DecidableEq, Repr

structure Cursor where
  position : Nat
  rest : List Char

namespace Cursor

def next (c : Cursor) : Cursor := ⟨c.position + 1, c.rest.drop 1⟩

def skip (c : Cursor) (n : Nat) : Cursor := ⟨c.position + n, c.rest.drop n⟩

def skipBlanks (c : Cursor) : Cursor :=
  let blanks := c.rest.takeWhile fun ch => ch = ' ' ∨ ch = '\t' ∨ ch = '\n' ∨ ch = '\r'
  c.skip blanks.length

end Cursor

def fail {α : Type} (problem : Problem) (position : Nat) : Except Error α :=
  .error (.syntactic problem position)

def unit? (cs : List Char) : Option Nat :=
  match cs.take 4 with
  | [a, b, c, d] => do
    let digits ← [a, b, c, d].mapM Text.hexValue?
    return Text.ofDigits 16 digits
  | _ => none

def isHighSurrogate (n : Nat) : Bool := 0xd800 ≤ n && n < 0xdc00

def isLowSurrogate (n : Nat) : Bool := 0xdc00 ≤ n && n < 0xe000

/-- The character that a pair of surrogates stands for. -/
def joinSurrogates (high low : Nat) : Nat := 0x10000 + (high - 0xd800) * 0x400 + (low - 0xdc00)

def shortEscape? (c : Char) : Option Nat :=
  match c with
  | '"' => some 0x22
  | '\\' => some 0x5c
  | '/' => some 0x2f
  | 'b' => some 8
  | 'f' => some 12
  | 'n' => some 10
  | 'r' => some 13
  | 't' => some 9
  | _ => none

/-- The code points of a text that began at `start`, up to its closing quote. Those read so far
are `read`, nearest first. A second half of a surrogate pair joins the first. -/
def readCodes (start : Nat) : (fuel : Nat) → (read : List Nat) → Cursor →
    Except Error (List Nat × Cursor)
  | 0, _, _ => fail .unterminated start
  | fuel + 1, read, c =>
    match c.rest with
    | [] => fail .unterminated start
    | '"' :: _ => .ok (read.reverse, c.next)
    | '\\' :: rest =>
      match rest with
      | [] => fail .unterminated start
      | 'u' :: digits =>
        match digits.drop 4, unit? digits with
        | [], _ | _, none => fail .badUnitEscape (c.position + 1)
        | more, some high =>
          match isHighSurrogate high, more with
          | true, '\\' :: 'u' :: digits' =>
            match digits'.drop 4 with
            | [] => readCodes start fuel (high :: read) (c.skip 6)
            | _ =>
              match unit? digits' with
              | none => fail .badUnitEscape (c.position + 7)
              | some low =>
                if isLowSurrogate low then
                  readCodes start fuel (joinSurrogates high low :: read) (c.skip 12)
                else readCodes start fuel (high :: read) (c.skip 6)
          | _, _ => readCodes start fuel (high :: read) (c.skip 6)
      | e :: _ =>
        match shortEscape? e with
        | some code => readCodes start fuel (code :: read) (c.skip 2)
        | none => fail .badEscape c.position
    | ch :: _ =>
      if ch < ' ' then fail .controlCharacter c.position
      else readCodes start fuel (ch.toNat :: read) c.next

def readText (c : Cursor) : Except Error (Document × Cursor) := do
  let (codes, c') ← readCodes (c.position - 1) (c.rest.length + 1) [] c
  return (.text (Text.ofCodes codes), c')

/-- A number. -/
def readNumber (c : Cursor) : Except Error (Document × Cursor) :=
  let negative := c.rest.head? = some '-'
  let body := if negative then c.rest.drop 1 else c.rest
  let whole :=
    match body with
    | '0' :: _ => ['0']
    | _ => body.takeWhile Char.isDigit
  if whole.isEmpty then fail .expectedValue c.position
  else
    let afterWhole := body.drop whole.length
    let fraction :=
      match afterWhole with
      | '.' :: digits => digits.takeWhile Char.isDigit
      | _ => []
    let afterFraction :=
      if fraction.isEmpty then afterWhole else afterWhole.drop (fraction.length + 1)
    let exponent : List Char :=
      match afterFraction with
      | e :: more =>
        if e = 'e' ∨ e = 'E' then
          let sign := more.takeWhile fun ch => ch = '-' ∨ ch = '+'
          let digits := (more.drop sign.length).takeWhile Char.isDigit
          if sign.length ≤ 1 ∧ !digits.isEmpty then e :: sign ++ digits else []
        else []
      | [] => []
    let signLength := if negative then 1 else 0
    if fraction.isEmpty ∧ exponent.isEmpty then
      if Number.longestInteger < whole.length then
        .error (.integer (.oversized whole.length))
      else
        let n := Text.ofDigits 10 (Number.Reading.spanDigits whole).1
        .ok (.int (if negative then -n else n), c.skip (signLength + whole.length))
    else
      let point := if fraction.isEmpty then [] else '.' :: fraction
      let text := whole ++ point ++ exponent
      .ok (.float ((Number.Reading.magnitude? negative text).getD .nan),
        c.skip (signLength + text.length))

def words : List (List Char × Document) :=
  [("null".toList, .null), ("true".toList, .bool true), ("false".toList, .bool false),
    ("NaN".toList, .float .nan), ("Infinity".toList, .float (.infinite false)),
    ("-Infinity".toList, .float (.infinite true))]

mutual

/-- A value. -/
def readValue : (fuel : Nat) → Cursor → Except Error (Document × Cursor)
  | 0, c => fail .expectedValue c.position
  | fuel + 1, c =>
    match c.rest with
    | '"' :: _ => readText c.next
    | '\x7b' :: _ =>
      let c := c.next.skipBlanks
      if c.rest.head? = some '\x7d' then .ok (.map [], c.next) else readMembers fuel [] c
    | '[' :: _ =>
      let c := c.next.skipBlanks
      if c.rest.head? = some ']' then .ok (.list [], c.next) else readItems fuel [] c
    | _ =>
      match words.find? fun w => w.1.isPrefixOf c.rest with
      | some (word, value) => .ok (value, c.skip word.length)
      | none => readNumber c

/-- The items of a list that follow the items `read`, nearest first. -/
def readItems : (fuel : Nat) → (read : List Document) → Cursor → Except Error (Document × Cursor)
  | 0, _, c => fail .expectedValue c.position
  | fuel + 1, read, c => do
    let (value, c) ← readValue fuel c
    let c := c.skipBlanks
    match c.rest with
    | ']' :: _ => .ok (.list (value :: read).reverse, c.next)
    | ',' :: _ => readItems fuel (value :: read) c.next.skipBlanks
    | _ => fail .expectedComma c.position

/-- The members of an object that follow the members `read`. -/
def readMembers : (fuel : Nat) → (read : List (Document × Document)) → Cursor →
    Except Error (Document × Cursor)
  | 0, _, c => fail .expectedName c.position
  | fuel + 1, read, c => do
    match c.rest with
    | '"' :: _ =>
      let (name, c) ← readText c.next
      let c := c.skipBlanks
      match c.rest with
      | ':' :: _ =>
        let (value, c) ← readValue fuel c.next.skipBlanks
        let c := c.skipBlanks
        let read := Document.put name value read
        match c.rest with
        | '\x7d' :: _ => .ok (.map read, c.next)
        | ',' :: _ => readMembers fuel read c.next.skipBlanks
        | _ => fail .expectedComma c.position
      | _ => fail .expectedColon c.position
    | _ => fail .expectedName c.position

end

def decode (cs : List Char) : Except Error Document := do
  if cs.head? = some '\uFEFF' then fail .byteOrderMark 0
  let (value, c) ← readValue (2 * cs.length + 2) (Cursor.skipBlanks ⟨0, cs⟩)
  let c := c.skipBlanks
  if c.rest.isEmpty then return value else fail .extraData c.position

def Error.message (cs : List Char) : Error → String
  | .syntactic problem position =>
    let before := cs.take position
    let line := before.count '\n' + 1
    let column := (before.reverse.takeWhile (· ≠ '\n')).length + 1
    problem.message ++ ": line " ++ toString line ++ " column " ++ toString column ++ " (char " ++
      toString position ++ ")"
  | .integer fault => fault.message

end Formwork.Json
