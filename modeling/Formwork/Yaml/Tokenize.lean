import Formwork.Text.Utf8
import Formwork.Yaml.Scalar

/-!
The tokens of a text. Indentation and the colons behind keys decide where block collections begin
and end. Whether a scalar is a key is known only when its colon is seen, so a slot is left in front
of everything that may be one, and the slot is filled when the colon comes on the same line.
-/

namespace Formwork.Yaml

/-- A place where a key may have begun. A required one has to turn out to be a key. -/
structure KeyPlace where
  slot : Nat
  required : Bool
  index : Nat
  line : Nat
  column : Nat
  deriving Inhabited

/-- How far a text has been split into tokens, which are kept nearest first. -/
structure Tokenizer where
  cursor : Cursor
  tokens : List Token := []
  slots : Nat := 0
  filled : List (Nat × List Token) := []
  flowLevel : Nat := 0
  indent : Int := -1
  indents : List Int := []
  allowsKey : Bool := true
  keyPlaces : List (Nat × KeyPlace) := []
  finished : Bool := false
  deriving Inhabited

/-- The most characters between the beginning of a key and its colon. -/
def longestKey : Nat := 1024

def isNameChar (c : Char) : Bool := c.isAlphanum || c = '-' || c = '_'

def isTagChar (c : Char) : Bool := c.isAlphanum || "-;/?:@&=+$,_.!~*'()[]".toList.contains c

def tagEscapes : (fuel : Nat) → (octets : Text.Octets) → Cursor →
    Except Error (Text.Octets × Cursor)
  | 0, octets, c => .ok (octets, c)
  | fuel + 1, octets, c =>
    if c.peek = some '%' then
      match hexNumber? 2 (c.rest.drop 1) with
      | some n => tagEscapes fuel (octets ++ [n.toUInt8]) (c.skip 3)
      | none => .error .malformed
    else .ok (octets, c)

def tagTextFrom : (fuel : Nat) → (text : List Char) → Cursor → Except Error (List Char × Cursor)
  | 0, _, _ => .error .malformed
  | fuel + 1, text, c => do
    let (word, c) := c.span isTagChar
    if c.peek = some '%' then
      let (octets, c) ← tagEscapes (c.rest.length + 1) [] c
      match Text.Utf8.decode octets with
      | .ok cs => tagTextFrom fuel (text ++ word ++ cs) c
      | .error _ => .error .malformed
    else .ok (text ++ word, c)

def tagText (c : Cursor) : Except Error (String × Cursor) := do
  if c.peek.all fun ch => !(isTagChar ch || ch = '%') then .error .malformed
  let (text, c) ← tagTextFrom (c.rest.length + 1) [] c
  return (String.ofList text, c)

def tagHandle (c : Cursor) : Except Error (String × Cursor) :=
  if c.peek ≠ some '!' then .error .malformed
  else
    let (name, behind) := c.next.span isNameChar
    if behind.peek = some '!' then .ok (String.ofList ('!' :: name ++ ['!']), behind.next)
    else if c.peekAt 1 = some ' ' then .ok ("!", c.next)
    else .error .malformed

/-- Whether a handle ends with an exclamation mark before the tag ends. -/
def hasHandle (c : Cursor) : Bool :=
  (c.rest.drop 1).takeWhile (fun ch => ch ≠ ' ' && !isBreak ch) |>.contains '!'

/-- The tag that stands here. -/
def tagAt (c : Cursor) : Except Error (Token × Cursor) := do
  let found : Token × Cursor ←
    if c.peekAt 1 = some '<' then do
      let (suffix, c) ← tagText (c.skip 2)
      if c.peek = some '>' then pure (Token.tag none suffix, c.next) else .error .malformed
    else if c.endsAt 1 then pure (Token.tag none "!", c.next)
    else if hasHandle c then do
      let (handle, c) ← tagHandle c
      let (suffix, c) ← tagText c
      pure (Token.tag (some handle) suffix, c)
    else do
      let (suffix, c) ← tagText c.next
      pure (Token.tag (some "!") suffix, c)
  if found.2.atBlankOrLineEnd then return found else .error .malformed

/-- The name behind an ampersand or an asterisk, which must not run into other characters. -/
def anchorName (c : Cursor) : Except Error (String × Cursor) :=
  let (name, c) := c.next.span isNameChar
  if name.isEmpty then .error .malformed
  else if c.peek.all fun ch => isSpace ch || "?:,]\x7d%@\x60".toList.contains ch then
    .ok (String.ofList name, c)
  else .error .malformed

def versionNumber (c : Cursor) : Except Error (Nat × Cursor) :=
  let (digits, c) := c.span Char.isDigit
  if digits.isEmpty then .error .malformed
  else .ok (Text.ofDigits 10 (digits.map fun d => d.toNat - 48), c)

/-- What follows the name of a directive. -/
def directiveValue (name : List Char) (c : Cursor) : Except Error (Directive × Cursor) := do
  if name = "YAML".toList then
    let (major, c) ← versionNumber c.skipBlanks
    if c.peek ≠ some '.' then .error .malformed
    let (_, c) ← versionNumber c.next
    if c.atBlankOrLineEnd then return (.version major, c) else .error .malformed
  else if name = "TAG".toList then
    let (handle, c) ← tagHandle c.skipBlanks
    if c.peek ≠ some ' ' then .error .malformed
    let (start, c) ← tagText c.skipBlanks
    if c.atBlankOrLineEnd then return (.handle handle start, c) else .error .malformed
  else return (.other, (c.span fun ch => !isBreak ch).2)

def directiveAt (c : Cursor) : Except Error (Directive × Cursor) := do
  let (name, c) := c.next.span isNameChar
  if name.isEmpty ∨ !c.atBlankOrLineEnd then .error .malformed
  let (directive, c) ← directiveValue name c
  return (directive, ← emptyLineRest c)

namespace Tokenizer

def push (t : Tokenizer) (token : Token) : Tokenizer := { t with tokens := token :: t.tokens }

def movedTo (t : Tokenizer) (c : Cursor) : Tokenizer := { t with cursor := c }

def take (t : Tokenizer) (token : Token) (n : Nat) : Tokenizer :=
  (t.push token).movedTo (t.cursor.skip n)

def unwind (t : Tokenizer) (column : Int) : Tokenizer :=
  if t.flowLevel ≠ 0 then t else unwindFrom t.indents t
where
  /-- Ends blocks, given the indentations of the enclosing ones. -/
  unwindFrom : List Int → Tokenizer → Tokenizer
    | outer :: more, t =>
      if column < t.indent then
        unwindFrom more ({ t with indent := outer, indents := more }.push .blockEnd)
      else t
    | [], t => t

/-- Begins a block at a column, unless one is there, and tells whether it does. -/
def indentTo (t : Tokenizer) (column : Nat) : Bool × Tokenizer :=
  if t.indent < column then
    (true, { t with indents := t.indent :: t.indents, indent := column })
  else (false, t)

def startBlock (t : Tokenizer) (token : Token) : Tokenizer :=
  match t.indentTo t.cursor.column with
  | (true, t') => t'.push token
  | (false, t') => t'

def dropKey (t : Tokenizer) : Except Error Tokenizer :=
  match t.keyPlaces.lookup t.flowLevel with
  | some place =>
    if place.required then .error .malformed
    else .ok { t with keyPlaces := t.keyPlaces.filter (·.1 ≠ t.flowLevel) }
  | none => .ok t

/-- Gives up the keys that lie on earlier lines or too far behind. -/
def dropStaleKeys (t : Tokenizer) : Except Error Tokenizer :=
  let isStale (place : KeyPlace) : Bool :=
    place.line ≠ t.cursor.line || longestKey < t.cursor.index - place.index
  if t.keyPlaces.any fun p => isStale p.2 && p.2.required then .error .malformed
  else .ok { t with keyPlaces := t.keyPlaces.filter fun p => !isStale p.2 }

def noteKey (t : Tokenizer) : Except Error Tokenizer :=
  if t.allowsKey then do
    let t ← t.dropKey
    let place : KeyPlace :=
      { slot := t.slots, required := t.flowLevel = 0 ∧ t.indent = t.cursor.column,
        index := t.cursor.index, line := t.cursor.line, column := t.cursor.column }
    return { t with
      slots := t.slots + 1
      tokens := .slot t.slots :: t.tokens
      keyPlaces := (t.flowLevel, place) :: t.keyPlaces }
  else .ok t

/-- Behind blanks, comments and breaks. A break allows a key outside flow collections. -/
def skipSpace (t : Tokenizer) : Tokenizer :=
  skipFrom (t.cursor.rest.length + 1) t
where
  /-- Behind at most `fuel` lines. -/
  skipFrom : (fuel : Nat) → Tokenizer → Tokenizer
    | 0, t => t
    | fuel + 1, t =>
      let c := t.cursor.skipBlanks.skipComment
      match c.takeBreak? with
      | some (_, c) =>
        skipFrom fuel { t with cursor := c, allowsKey := t.allowsKey || t.flowLevel = 0 }
      | none => { t with cursor := c }

def finish (t : Tokenizer) : Except Error Tokenizer := do
  let t ← (t.unwind (-1)).dropKey
  return { t.push .streamEnd with finished := true, allowsKey := false }

def takeDirective (t : Tokenizer) : Except Error Tokenizer := do
  let t ← (t.unwind (-1)).dropKey
  let (d, c) ← directiveAt t.cursor
  return { (t.push (.directive d)).movedTo c with allowsKey := false }

def takeMarker (t : Tokenizer) (token : Token) : Except Error Tokenizer := do
  let t ← (t.unwind (-1)).dropKey
  return { t.take token 3 with allowsKey := false }

def openFlow (t : Tokenizer) (token : Token) : Except Error Tokenizer := do
  let t ← t.noteKey
  return { t.take token 1 with flowLevel := t.flowLevel + 1, allowsKey := true }

def closeFlow (t : Tokenizer) (token : Token) : Except Error Tokenizer := do
  if t.flowLevel = 0 then .error .malformed
  let t ← t.dropKey
  return { t.take token 1 with flowLevel := t.flowLevel - 1, allowsKey := false }

def takeFlowEntry (t : Tokenizer) : Except Error Tokenizer := do
  let t ← t.dropKey
  return { t.take .flowEntry 1 with allowsKey := true }

def takeBlockEntry (t : Tokenizer) : Except Error Tokenizer := do
  if t.flowLevel ≠ 0 ∨ !t.allowsKey then .error .malformed
  let t ← (t.startBlock .blockSequenceStart).dropKey
  return { t.take .blockEntry 1 with allowsKey := true }

def takeKey (t : Tokenizer) : Except Error Tokenizer := do
  if t.flowLevel = 0 ∧ !t.allowsKey then .error .malformed
  let t := if t.flowLevel = 0 then t.startBlock .blockMappingStart else t
  let t ← t.dropKey
  return { t.take .key 1 with allowsKey := t.flowLevel = 0 }

def completeKey (t : Tokenizer) (place : KeyPlace) : Tokenizer :=
  let (starts, t) := if t.flowLevel = 0 then t.indentTo place.column else (false, t)
  let tokens := if starts then [.blockMappingStart, .key] else [.key]
  { t.take .value 1 with
    filled := (place.slot, tokens) :: t.filled
    keyPlaces := t.keyPlaces.filter (·.1 ≠ t.flowLevel)
    allowsKey := false }

def takeValue (t : Tokenizer) : Except Error Tokenizer := do
  match t.keyPlaces.lookup t.flowLevel with
  | some place => return t.completeKey place
  | none =>
    if t.flowLevel = 0 ∧ !t.allowsKey then .error .malformed
    let t := if t.flowLevel = 0 then t.startBlock .blockMappingStart else t
    return { t.take .value 1 with allowsKey := t.flowLevel = 0 }

def takeWord (t : Tokenizer) (read : Cursor → Except Error (Token × Cursor)) :
    Except Error Tokenizer := do
  let t ← t.noteKey
  let (token, c) ← read t.cursor
  return { (t.push token).movedTo c with allowsKey := false }

def takePlain (t : Tokenizer) : Except Error Tokenizer := do
  let t ← t.noteKey
  let (text, crossed, c) := plain (t.flowLevel ≠ 0) (t.indent + 1) t.cursor
  return { (t.push (.scalar text true)).movedTo c with allowsKey := crossed }

def takeBlockScalar (t : Tokenizer) (folded : Bool) : Except Error Tokenizer := do
  let t ← t.dropKey
  let (text, c) ← block folded t.indent t.cursor
  return { (t.push (.scalar text false)).movedTo c with allowsKey := true }

/-- Characters that begin no plain scalar. -/
def indicators : List Char := "-?:,[]\x7b\x7d#&*!|>'\"%@\x60".toList

def startsPlain (t : Tokenizer) (ch : Char) : Bool :=
  if isSpace ch then false
  else if indicators.contains ch then
    !t.cursor.endsAt 1 && (ch = '-' || (t.flowLevel = 0 && (ch = '?' || ch = ':')))
  else true

def named (make : String → Token) (c : Cursor) : Except Error (Token × Cursor) := do
  let (name, c) ← anchorName c
  return (make name, c)

def quotedScalar (quote : Char) (c : Cursor) : Except Error (Token × Cursor) := do
  let (text, c) ← quoted quote c
  return (.scalar text false, c)

/-- The token that begins with a character. -/
def takeToken (t : Tokenizer) (ch : Char) : Except Error Tokenizer :=
  let c := t.cursor
  let inFlow := t.flowLevel ≠ 0
  if c.column = 0 ∧ ch = '%' then t.takeDirective
  else if c.column = 0 ∧ c.atMarker then
    t.takeMarker (if ch = '-' then .documentStart else .documentEnd)
  else if ch = '[' then t.openFlow .flowSequenceStart
  else if ch = '\x7b' then t.openFlow .flowMappingStart
  else if ch = ']' then t.closeFlow .flowSequenceEnd
  else if ch = '\x7d' then t.closeFlow .flowMappingEnd
  else if ch = ',' then t.takeFlowEntry
  else if ch = '-' ∧ c.endsAt 1 then t.takeBlockEntry
  else if ch = '?' ∧ (inFlow ∨ c.endsAt 1) then t.takeKey
  else if ch = ':' ∧ (inFlow ∨ c.endsAt 1) then t.takeValue
  else if ch = '*' then t.takeWord (named .alias)
  else if ch = '&' then t.takeWord (named .anchor)
  else if ch = '!' then t.takeWord tagAt
  else if ch = '|' ∧ !inFlow then t.takeBlockScalar false
  else if ch = '>' ∧ !inFlow then t.takeBlockScalar true
  else if ch = '\'' ∨ ch = '"' then t.takeWord (quotedScalar ch)
  else if t.startsPlain ch then t.takePlain
  else .error .malformed

/-- Adds the next token, and the ends of blocks in front of it. -/
def step (t : Tokenizer) : Except Error Tokenizer := do
  let t ← t.skipSpace.dropStaleKeys
  let t := t.unwind t.cursor.column
  match t.cursor.peek with
  | none => t.finish
  | some ch => (← t.takeToken ch).dropStaleKeys

/-- The tokens in order, with the slots replaced by what they were filled with. -/
def tokenList (t : Tokenizer) : List Token := settled t.tokens.reverse
where
  /-- The tokens that take the place of some. -/
  settled (tokens : List Token) : List Token :=
    tokens.flatMap fun token =>
      match token with
      | .slot n => (t.filled.lookup n).getD []
      | token => [token]

/-- The tokens in front of the first place where a key may still turn out to begin. -/
def knownTokens (t : Tokenizer) : List Token :=
  tokenList.settled t <| t.tokens.reverse.takeWhile fun token =>
    match token with
    | .slot n => !t.keyPlaces.any fun place => place.2.slot == n
    | _ => true

def run : (fuel : Nat) → Tokenizer → List Token
  | 0, t => t.knownTokens ++ [.fault .malformed]
  | fuel + 1, t =>
    match t.step with
    | .error e => t.knownTokens ++ [.fault e]
    | .ok t => if t.finished then t.tokenList else run fuel t

end Tokenizer

/-- The tokens of a text. A byte order mark in front of it does not count. -/
def tokenize (cs : List Char) : List Token :=
  if !cs.all isAllowed then [.fault .malformed]
  else
    let start : Cursor := ⟨cs, 0, 0, 0⟩
    let start := if cs.head? = some '\uFEFF' then start.next else start
    Tokenizer.run (cs.length + 2) { cursor := start }

end Formwork.Yaml
