import Formwork.Text.CaseTable

/-!
Upper and lower case of texts, with the full mappings: one character may become several, and a
capital sigma that ends a word becomes the final form of the small letter.
-/

namespace Formwork.Text

def upperChar (c : Char) : List Char :=
  match upperExpansions.lookup c.toNat with
  | some codes => codes.map Char.ofNat
  | none =>
    match CaseRun.image? upperRuns c.toNat with
    | some code => [Char.ofNat code]
    | none => [c]

def lowerChar (c : Char) : List Char :=
  if c = 'İ' then ['i', '\u0307']
  else
    match CaseRun.image? lowerRuns c.toNat with
    | some code => [Char.ofNat code]
    | none => [c]

def isCaseIgnorable (c : Char) : Bool := inIntervals caseIgnorableIntervals c.toNat

/-- Has an upper, lower or title case, among the characters that are not skipped. -/
def isCased (c : Char) : Bool := inIntervals casedIntervals c.toNat

/-- The first character that is not skipped has a case. -/
def startsCased (cs : List Char) : Bool :=
  match cs.dropWhile isCaseIgnorable with
  | c :: _ => isCased c
  | [] => false

/-- Lower case of `rest`, which follows the characters `before` (nearest first). A capital sigma
is final when a letter precedes it and none follows. -/
def lowerAfter (before : List Char) : List Char → List Char
  | [] => []
  | c :: rest =>
    (if c = 'Σ' then
      [if startsCased before && !startsCased rest then 'ς' else 'σ']
    else lowerChar c) ++ lowerAfter (c :: before) rest

def upperChars (cs : List Char) : List Char := cs.flatMap upperChar

def lowerChars (cs : List Char) : List Char := lowerAfter [] cs

def upper (s : String) : String := String.ofList (upperChars s.toList)

def lower (s : String) : String := String.ofList (lowerChars s.toList)

end Formwork.Text
