import Formwork.Text.Digit
import Formwork.Text.Lines
import Formwork.Text.WordTable

/-!
Tokens of an expression, and where a text stops having any. Numbers, texts and names follow the
rules of literals: names may be of any script, and underscores may stand between digits.
-/

namespace Formwork.Literal

structure TextKind where
  isRaw : Bool := false
  isBytes : Bool := false
  isFormatted : Bool := false
  deriving DecidableEq, Repr, Inhabited

/-- A token. Of a whole number the count of its decimal digits is kept, of a text its inside. -/
inductive Token
  | name (text : String)
  | number (isImaginary : Bool) (digits : Nat)
  | text (kind : TextKind) (body : List Char)
  | op (text : String)
  | lineEnd
  | indent
  | dedent
  | finish
  deriving DecidableEq, Repr, Inhabited

/-- A token, the number of brackets that are open behind it, and its line. -/
structure Lexeme where
  token : Token
  level : Nat
  line : Nat
  deriving Inhabited

structure Bracket where
  char : Char
  line : Nat
  deriving Inhabited

/-- How tokens end: with the text, at a character that begins none, or where the text breaks off.
Only the second one is found by looking ahead. -/
inductive Ending
  | complete
  | fault (message : String)
  | missingBracket (opened : Bracket)
  | missingLine
  | brokenLine
  | unevenIndent
  | mixedIndent
  deriving Inhabited

/-- The number of brackets that may be open at once. -/
def deepestLevel : Nat := 200

/-- What may stand in a name, before it is known which characters make up one. -/
def isNameLike (c : Char) : Bool := c.isAlphanum || c = '_' || 128 ≤ c.toNat

def codeName (c : Char) : String :=
  let digits := if c.toNat < 0x10000 then 4 else if c.toNat < 0x100000 then 5 else 6
  "U+" ++ String.ofList ((Text.hexDigits digits c.toNat).map Char.toUpper)

def strangeCharacter (c : Char) : String :=
  if Text.isPrintable c then "invalid character '" ++ c.toString ++ "' (" ++ codeName c ++ ")"
  else "invalid non-printable character " ++ codeName c

/-- Whether a number may end here: a name must not follow, but some words may. Words of two letters
that begin with the same one are not looked at up to their end. -/
def checkNumberEnd (kind : String) (cs : List Char) : Except String (List Char) :=
  let startsWith (word : String) : Bool := word.toList.isPrefixOf cs
  let isWord (word : String) : Bool :=
    startsWith word && !(cs.drop word.length).head?.any isNameLike
  if ["and", "else", "for", "or", "not"].any isWord || ["if", "in", "is"].any startsWith then
    .ok cs
  else if cs.head?.any fun c => isNameLike c && c.toNat < 128 then
    .error ("invalid " ++ kind ++ " literal")
  else .ok cs

def skipDigits : List Char → Except String (List Char)
  | [] => .ok []
  | c :: rest =>
    if c.isDigit then skipDigits rest
    else if c ≠ '_' then .ok (c :: rest)
    else if rest.head?.any Char.isDigit then skipDigits rest
    else .error "invalid decimal literal"

structure Radix where
  name : String
  digits : List Char

def radix? (letter : Char) : Option Radix :=
  match letter.toLower with
  | 'x' => some ⟨"hexadecimal", "0123456789abcdefABCDEF".toList⟩
  | 'o' => some ⟨"octal", "01234567".toList⟩
  | 'b' => some ⟨"binary", "01".toList⟩
  | _ => none

/-- The problem with a character where a digit of a base should be. -/
def Radix.refuse (r : Radix) (next : Option Char) : String :=
  match next with
  | some c =>
    if c.isDigit then "invalid digit '" ++ c.toString ++ "' in " ++ r.name ++ " literal"
    else "invalid " ++ r.name ++ " literal"
  | none => "invalid " ++ r.name ++ " literal"

/-- Behind the digits of a base. A digit is needed at the beginning and behind an underscore. -/
def Radix.skip (r : Radix) (needsDigit mayBeLow : Bool) : List Char → Except String (List Char)
  | [] => if needsDigit then .error (r.refuse none) else .ok []
  | c :: rest =>
    if r.digits.contains c then r.skip false true rest
    else if c = '_' ∧ mayBeLow then r.skip true false rest
    else if needsDigit ∨ c.isDigit then .error (r.refuse c)
    else checkNumberEnd r.name (c :: rest)

abbrev Numbered := Except String (Token × List Char)

def takeUnit (digits : Nat) (cs : List Char) : Numbered :=
  match cs with
  | 'j' :: rest | 'J' :: rest => (checkNumberEnd "imaginary" rest).map (.number true 0, ·)
  | _ => (checkNumberEnd "decimal" cs).map (.number false digits, ·)

/-- The exponent of a number, if there is one. -/
def takeExponent (digits : Nat) (cs : List Char) : Numbered :=
  let sized (rest : List Char) : Numbered := do takeUnit 0 (← skipDigits rest)
  match cs with
  | e :: rest =>
    if e ≠ 'e' ∧ e ≠ 'E' then takeUnit digits cs
    else
      match rest with
      | c :: more =>
        if c.isDigit then sized rest
        else if c = '+' ∨ c = '-' then
          if more.head?.any Char.isDigit then sized more else .error "invalid decimal literal"
        else (checkNumberEnd "decimal" cs).map (.number false digits, ·)
      | [] => (checkNumberEnd "decimal" cs).map (.number false digits, ·)
  | [] => takeUnit digits cs

def takeFraction (cs : List Char) : Numbered := do
  takeExponent 0 (← if cs.head?.any Char.isDigit then skipDigits cs else .ok cs)

def takeTail (digits : Nat) (cs : List Char) : Numbered :=
  match cs with
  | '.' :: rest => takeFraction rest
  | _ => takeExponent digits cs

def countDigits (cs rest : List Char) : Nat :=
  ((cs.take (cs.length - rest.length)).filter Char.isDigit).length

def skipZeros : List Char → Except String (List Char)
  | [] => .ok []
  | c :: rest =>
    if c = '0' then skipZeros rest
    else if c ≠ '_' then .ok (c :: rest)
    else if rest.head?.any Char.isDigit then skipZeros rest
    else .error "invalid decimal literal"

/-- The number whose first digit stands at the beginning. Only a number with a point, an exponent
or an imaginary unit may begin with zeros. -/
def takeNumber (cs : List Char) : Numbered := do
  match cs with
  | '0' :: letter :: rest =>
    match radix? letter with
    | some r => return (.number false 0, ← r.skip true true rest)
    | none =>
      let behind ← skipZeros (letter :: rest)
      if behind.head?.any Char.isDigit then
        let tail ← skipDigits behind
        if tail.head?.any fun c => ".eEjJ".toList.contains c then takeTail 0 tail
        else throw ("leading zeros in decimal integer literals are not permitted; " ++
          "use an 0o prefix for octal integers")
      else takeTail 1 behind
  | _ =>
    let rest ← skipDigits cs
    takeTail (countDigits cs rest) rest

def textKind? (letters : List Char) : Option TextKind :=
  match letters.map Char.toLower with
  | [] | ['u'] => some {}
  | ['r'] => some { isRaw := true }
  | ['b'] => some { isBytes := true }
  | ['f'] => some { isFormatted := true }
  | ['b', 'r'] | ['r', 'b'] => some { isRaw := true, isBytes := true }
  | ['f', 'r'] | ['r', 'f'] => some { isRaw := true, isFormatted := true }
  | _ => none

def textStart? (cs : List Char) : Option (TextKind × Char × List Char) :=
  let letters := cs.takeWhile Char.isAlpha
  match cs.drop letters.length with
  | quote :: rest =>
    if quote = '"' ∨ quote = '\'' then (textKind? letters).map (·, quote, rest) else none
  | [] => none

/-- The inside of a text behind its opening quotes, kept in reverse, what follows it, and the
number of lines that it crosses; or the number of lines before it breaks off. -/
def textBody (quote : Char) (isTriple : Bool) (body : List Char) (lines : Nat) :
    List Char → Except Nat (List Char × List Char × Nat)
  | [] => .error lines
  | c :: rest =>
    if c = quote ∧ !isTriple then .ok (body.reverse, rest, lines)
    else if c = quote ∧ [quote, quote].isPrefixOf rest then
      .ok (body.reverse, rest.drop 2, lines)
    else if c = '\n' ∧ !isTriple then .error lines
    else if c = '\\' then
      match rest with
      | d :: more =>
        textBody quote isTriple (d :: c :: body) (lines + if d = '\n' then 1 else 0) more
      | [] => .error lines
    else textBody quote isTriple (c :: body) (lines + if c = '\n' then 1 else 0) rest

def takeName (cs : List Char) : Except String (Token × List Char) :=
  let word := cs.takeWhile isNameLike
  let rest := cs.drop word.length
  let strange :=
    match word with
    | c :: more => if Text.isNameStart c then more.find? (!Text.isNameChar ·) else some c
    | [] => none
  match strange with
  | some c => .error (strangeCharacter c)
  | none => .ok (.name (String.ofList word), rest)

/-- Marks of more than one character, the longest first. -/
def longMarks : List String :=
  ["**=", "//=", "<<=", ">>=", "...", "!=", "%=", "&=", "**", "*=", "+=", "-=", "->", "//", "/=",
    ":=", "<<", "<=", "<>", "==", ">=", ">>", "@=", "^=", "|="]

def takeMark (cs : List Char) : String × List Char :=
  match longMarks.find? fun mark => mark.toList.isPrefixOf cs with
  | some mark => (mark, cs.drop mark.length)
  | none => (String.ofList (cs.take 1), cs.drop 1)

def closing (c : Char) : Char := if c = '(' then ')' else if c = '[' then ']' else '\x7d'

/-- How far a text has been split into tokens, which are kept nearest first. Of an indentation the
column is kept as tabs count for it in two ways. -/
structure Lexer where
  rest : List Char
  line : Nat := 1
  tokens : List Lexeme := []
  brackets : List Bracket := []
  indents : List (Nat × Nat) := []
  atLineStart : Bool := true
  isBlank : Bool := false
  deriving Inhabited

namespace Lexer

def push (l : Lexer) (token : Token) (rest : List Char) : Lexer :=
  { l with rest, tokens := ⟨token, l.brackets.length, l.line⟩ :: l.tokens }

/-- The indentation at the beginning of a line, and what follows. -/
def indentation (column : Nat × Nat) : List Char → (Nat × Nat) × List Char
  | ' ' :: rest => indentation (column.1 + 1, column.2 + 1) rest
  | '\t' :: rest => indentation ((column.1 / 8 + 1) * 8, column.2 + 1) rest
  | '\x0c' :: rest => indentation (0, 0) rest
  | cs => (column, cs)

def unwind (column : Nat × Nat) : List (Nat × Nat) → Lexer → Except Ending Lexer
  | [], l => if column.1 = 0 then .ok { l with indents := [] } else .error .unevenIndent
  | top :: outer, l =>
    if column.1 < top.1 then unwind column outer (l.push .dedent l.rest)
    else if column.1 ≠ top.1 then .error .unevenIndent
    else if column.2 ≠ top.2 then .error .mixedIndent
    else .ok { l with indents := top :: outer }

/-- Begins a line. Lines without tokens, and those inside brackets, have no indentation. -/
def startLine (l : Lexer) : Except Ending Lexer :=
  let (column, rest) := indentation (0, 0) l.rest
  let l := { l with rest, atLineStart := false, isBlank := false }
  if rest.head?.any fun c => c = '#' ∨ c = '\n' then .ok { l with isBlank := true }
  else if !l.brackets.isEmpty then .ok l
  else
    let top := l.indents.head?.getD (0, 0)
    if top.1 < column.1 then
      if column.2 ≤ top.2 then .error .mixedIndent
      else .ok { l.push .indent rest with indents := column :: l.indents }
    else unwind column l.indents l

/-- Takes a bracket or another mark. -/
def takeSymbol (l : Lexer) (c : Char) : Except Ending Lexer :=
  let (mark, rest) := takeMark l.rest
  if ['(', '[', '\x7b'].contains c then
    if deepestLevel ≤ l.brackets.length then .error (.fault "too many nested parentheses")
    else .ok ({ l with brackets := ⟨c, l.line⟩ :: l.brackets }.push (.op mark) rest)
  else if [')', ']', '\x7d'].contains c then
    match l.brackets with
    | [] => .error (.fault ("unmatched '" ++ c.toString ++ "'"))
    | opened :: outer =>
      if closing opened.char = c then .ok ({ l with brackets := outer }.push (.op mark) rest)
      else
        .error (.fault ("closing parenthesis '" ++ c.toString ++
          "' does not match opening parenthesis '" ++ opened.char.toString ++ "'" ++
          if opened.line ≠ l.line then " on line " ++ toString opened.line else ""))
  else if !Text.isPrintable c then .error (.fault (strangeCharacter c))
  else .ok (l.push (.op mark) rest)

def takeText (l : Lexer) (kind : TextKind) (quote : Char) (rest : List Char) :
    Except Ending Lexer :=
  let isTriple := [quote, quote].isPrefixOf rest
  match textBody quote isTriple [] 0 (if isTriple then rest.drop 2 else rest) with
  | .ok (body, rest, lines) => .ok ({ l with line := l.line + lines }.push (.text kind body) rest)
  | .error lines =>
    let line := l.line + lines
    .error (.fault ((if isTriple then "unterminated triple-quoted string literal"
      else "unterminated string literal") ++ " (detected at line " ++ toString line ++ ")"))

/-- Takes what stands at the beginning of the rest: a token, a blank, a comment or an end of line.
-/
def step (l : Lexer) : Except Ending Lexer := do
  match l.rest with
  | [] => .ok l
  | c :: rest =>
    if c = ' ' ∨ c = '\t' ∨ c = '\x0c' then return { l with rest }
    else if c = '#' then return { l with rest := l.rest.dropWhile (· ≠ '\n') }
    else if c = '\n' then
      let l := if l.isBlank ∨ !l.brackets.isEmpty then { l with rest } else l.push .lineEnd rest
      return { l with line := l.line + 1, atLineStart := true }
    else if c = '\\' then
      match rest with
      | '\n' :: more => return { l with rest := more, line := l.line + 1 }
      | _ => .error .brokenLine
    else
      match textStart? l.rest with
      | some (kind, quote, more) => l.takeText kind quote more
      | none =>
        if isNameLike c ∧ !c.isDigit then
          let (token, rest) ← (takeName l.rest).mapError .fault
          return l.push token rest
        else if c.isDigit then
          let (token, rest) ← (takeNumber l.rest).mapError .fault
          return l.push token rest
        else if c = '.' ∧ rest.head?.any Char.isDigit then
          let (token, rest) ← (takeFraction rest).mapError .fault
          return l.push token rest
        else l.takeSymbol c

/-- The tokens of the rest, for at most `fuel` steps, and how they end. -/
def run : (fuel : Nat) → Lexer → List Lexeme × Ending
  | 0, l => (l.tokens.reverse, .missingLine)
  | fuel + 1, l =>
    match (if l.atLineStart then l.startLine else .ok l) with
    | .error e => (l.tokens.reverse, e)
    | .ok l =>
      if l.rest.isEmpty then
        match l.brackets with
        | opened :: _ => (l.tokens.reverse, .missingBracket opened)
        | [] => ((l.push .finish []).tokens.reverse, .complete)
      else
        match l.step with
        | .error e => (l.tokens.reverse, e)
        | .ok l => run fuel l

end Lexer

def tokens (cs : List Char) : List Lexeme × Ending :=
  let cs := Text.unifyNewlines cs
  Lexer.run (2 * cs.length + 2) { rest := cs }

end Formwork.Literal
