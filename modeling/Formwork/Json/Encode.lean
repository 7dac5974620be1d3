import Formwork.Text.Quoted
import Formwork.Value

/-!
Dynamic values written as JSON, each member and item on a line of its own.
-/

namespace Formwork.Json

structure EncodingStyle where
  /-- Write every character outside printable ASCII as an escape. -/
  asciiOnly : Bool
  /-- How double precision numbers are written. -/
  decimals : DecimalStyle
  /-- Write numbers that are not finite as words of their own, and not as null. -/
  hasWords : Bool
  deriving DecidableEq, Repr

def unitEscape (n : Nat) : List Char := '\\' :: 'u' :: Text.hexDigits 4 n

/-- A character as one escape, or as two for the halves of a surrogate pair. -/
def charEscape (c : Char) : List Char :=
  let n := Text.codeOfChar c
  if n < 0x10000 then unitEscape n
  else unitEscape (0xd800 + (n - 0x10000) / 0x400) ++ unitEscape (0xdc00 + (n - 0x10000) % 0x400)

def encodeChar (style : EncodingStyle) (c : Char) : List Char :=
  if c = '"' then ['\\', '"']
  else if c = '\\' then ['\\', '\\']
  else if c = '\n' then ['\\', 'n']
  else if c = '\r' then ['\\', 'r']
  else if c = '\t' then ['\\', 't']
  else if c = '\x08' then ['\\', 'b']
  else if c = '\x0c' then ['\\', 'f']
  else if c < ' ' ∨ (style.asciiOnly ∧ '~' < c) then charEscape c
  else [c]

def encodeText (style : EncodingStyle) (s : String) : List Char :=
  '"' :: s.toList.flatMap (encodeChar style) ++ ['"']

def newline (depth : Nat) : List Char := '\n' :: List.replicate (2 * depth) ' '

def encodeFloat (style : EncodingStyle) (x : Binary64) : List Char :=
  let word (w : String) : List Char := (if style.hasWords then w else "null").toList
  match x with
  | .finite .. => (x.textIn style.decimals).toList
  | .infinite negative => word (if negative then "-Infinity" else "Infinity")
  | .nan => word "NaN"

mutual

def encodeAt (style : EncodingStyle) (depth : Nat) : Value → List Char
  | .null => "null".toList
  | .bool b => if b then "true".toList else "false".toList
  | .int n => (toString n).toList
  | .float x => encodeFloat style x
  | .str s => encodeText style s
  | .list [] => ['[', ']']
  | .list items => '[' :: encodeItems style (depth + 1) items ++ newline depth ++ [']']
  | .object [] => ['\x7b', '\x7d']
  | .object members =>
    '\x7b' :: encodeMembers style (depth + 1) members ++ newline depth ++ ['\x7d']

def encodeItems (style : EncodingStyle) (depth : Nat) : List Value → List Char
  | [] => []
  | [v] => newline depth ++ encodeAt style depth v
  | v :: rest => newline depth ++ encodeAt style depth v ++ ',' :: encodeItems style depth rest

def encodeMembers (style : EncodingStyle) (depth : Nat) : List (String × Value) → List Char
  | [] => []
  | [(name, v)] =>
    newline depth ++ encodeText style name ++ ':' :: ' ' :: encodeAt style depth v
  | (name, v) :: rest =>
    newline depth ++ encodeText style name ++ ':' :: ' ' :: encodeAt style depth v ++
      ',' :: encodeMembers style depth rest

end

def workspaceStyle : EncodingStyle := ⟨true, Binary64.plainStyle, true⟩

def settingsStyle : EncodingStyle := ⟨false, ⟨-5, 16, 1, false⟩, false⟩

def encode (style : EncodingStyle) (v : Value) : String := String.ofList (encodeAt style 0 v)

end Formwork.Json
