import Formwork.Value

/-!
Values as TypeScript literals. Numbers that are whole have no point, texts are single-quoted with
their quotes and backslashes escaped, and lists nest.
-/

namespace Formwork.TypeScript

def escapeChar (c : Char) : List Char := if c = '\\' ∨ c = '\'' then ['\\', c] else [c]

def quotedChars (cs : List Char) : List Char := '\'' :: cs.flatMap escapeChar ++ ['\'']

def floatLiteral (x : Binary64) : String :=
  match x with
  | .nan => "NaN"
  | .infinite negative => if negative then "-Infinity" else "Infinity"
  | .finite .. =>
    match x.toInt? with
    | some n => toString n
    | none => x.text

mutual

/-- The characters of the literal of a value. An object has none of its own and is written as its
text. -/
def literalChars : Value → List Char
  | .null => "null".toList
  | .bool b => if b then "true".toList else "false".toList
  | .int n => (toString n).toList
  | .float x => (floatLiteral x).toList
  | .str s => quotedChars s.toList
  | .list items => '[' :: literalItems items ++ [']']
  | .object members => quotedChars (Value.object members).display.toList

def literalItems : List Value → List Char
  | [] => []
  | [v] => literalChars v
  | v :: rest => literalChars v ++ ',' :: ' ' :: literalItems rest

end

def literalText (v : Value) : String := String.ofList (literalChars v)

def literal (v : Value) : Except Number.Oversized String :=
  if v.isWritable then .ok (literalText v) else .error {}

end Formwork.TypeScript
