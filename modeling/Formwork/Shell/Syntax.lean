/-!
Lines of a shell: words with quotes and parameters in them, operators between the words, and the
commands that they make up. Compound commands are not among them.
-/

namespace Formwork.Shell

/-- A part of a word: text as it stands, or the value of a parameter. -/
inductive Piece
  | text (s : List Char)
  | parameter (name : List Char) (isQuoted : Bool)
  deriving DecidableEq, Repr

abbrev Word := List Piece

inductive Token
  | word (w : Word)
  | operator (s : List Char)
  deriving DecidableEq, Repr

/-! ### Tokens -/

inductive Mode
  | plain
  | single
  | double
  | escape (isQuoted : Bool)
  | dollar (isQuoted : Bool)
  | name (isQuoted : Bool) (begun : List Char)
  | braced (isQuoted : Bool) (begun : List Char)
  | comment
  deriving DecidableEq, Repr

/-- What has been read of a line, the last first. `word` is the word that has been begun, and
`joins` tells whether an operator may go on. -/
structure Reader where
  tokens : List Token := []
  word : Option Word := none
  mode : Mode := .plain
  joins : Bool := false
  deriving DecidableEq, Repr

namespace Reader

def add (r : Reader) (p : Piece) : Reader :=
  { r with word := some (p :: r.word.getD []), joins := false }

def addChar (r : Reader) (c : Char) : Reader :=
  match r.word with
  | some (.text s :: rest) => { r with word := some (.text (s ++ [c]) :: rest), joins := false }
  | _ => r.add (.text [c])

def endWord (r : Reader) : Reader :=
  match r.word with
  | some w => { r with tokens := .word w.reverse :: r.tokens, word := none, joins := false }
  | none => { r with joins := false }

def longOperators : List (List Char) :=
  ["&&", "||", ">>", ">&", "2>>", "2>&", "1>>", "1>&"].map String.toList

/-- A character of an operator. A one or a two directly in front of a redirection belongs to it. -/
def addOperator (r : Reader) (c : Char) : Reader :=
  match r.word, r.tokens with
  | some [.text [d]], tokens =>
    if c = '>' ∧ (d = '1' ∨ d = '2') then
      { r with tokens := .operator [d, c] :: tokens, word := none, joins := true }
    else { r.endWord with tokens := .operator [c] :: r.endWord.tokens, joins := true }
  | none, .operator s :: rest =>
    if r.joins ∧ longOperators.contains (s ++ [c]) then
      { r with tokens := .operator (s ++ [c]) :: rest }
    else { r with tokens := .operator [c] :: r.tokens, joins := true }
  | _, _ => { r.endWord with tokens := .operator [c] :: r.endWord.tokens, joins := true }

def resume (r : Reader) (isQuoted : Bool) : Reader :=
  { r with mode := if isQuoted then .double else .plain }

/-- A character that no word is in the middle of a parameter for. -/
def readPlain (r : Reader) (c : Char) : Reader :=
  if c = '\'' then { (r.add (.text [])) with mode := .single }
  else if c = '"' then { (r.add (.text [])) with mode := .double }
  else if c = '\\' then { r with mode := .escape false }
  else if c = '$' then { r with mode := .dollar false }
  else if c = ' ' ∨ c = '\t' then r.endWord
  else if c = '\n' then r.addOperator ';'
  else if ";&|<>".toList.contains c then r.addOperator c
  else if c = '#' ∧ r.word.isNone then { r with mode := .comment }
  else r.addChar c

def readQuoted (r : Reader) (c : Char) : Reader :=
  if c = '"' then r.resume false
  else if c = '\\' then { r with mode := .escape true }
  else if c = '$' then { r with mode := .dollar true }
  else r.addChar c

def readBase (r : Reader) (isQuoted : Bool) (c : Char) : Reader :=
  if isQuoted then (r.resume true).readQuoted c else (r.resume false).readPlain c

def isNameChar (c : Char) : Bool := c.isAlphanum || c = '_'

def read (r : Reader) (c : Char) : Reader :=
  match r.mode with
  | .plain => r.readPlain c
  | .double => r.readQuoted c
  | .single => if c = '\'' then r.resume false else r.addChar c
  | .comment => if c = '\n' then (r.resume false).readPlain c else r
  | .escape isQuoted =>
    if c = '\n' then r.resume isQuoted
    else if isQuoted && !"\"\\$`".toList.contains c then
      ((r.addChar '\\').addChar c).resume isQuoted
    else (r.addChar c).resume isQuoted
  | .dollar isQuoted =>
    if c = '{' then { r with mode := .braced isQuoted [] }
    else if c.isDigit || "$?#".toList.contains c then
      (r.add (.parameter [c] isQuoted)).resume isQuoted
    else if isNameChar c then { r with mode := .name isQuoted [c] }
    else (r.addChar '$').readBase isQuoted c
  | .name isQuoted begun =>
    if isNameChar c then { r with mode := .name isQuoted (begun ++ [c]) }
    else (r.add (.parameter begun isQuoted)).readBase isQuoted c
  | .braced isQuoted begun =>
    if c = '}' then (r.add (.parameter begun isQuoted)).resume isQuoted
    else { r with mode := .braced isQuoted (begun ++ [c]) }

/-- The tokens of a whole line, unless a quote or a brace is left open. -/
def finish? (r : Reader) : Option (List Token) :=
  match r.mode with
  | .plain | .comment => some r.endWord.tokens.reverse
  | .escape false => some (r.addChar '\\').endWord.tokens.reverse
  | .dollar false => some (r.addChar '$').endWord.tokens.reverse
  | .name false begun => some (r.add (.parameter begun false)).endWord.tokens.reverse
  | _ => none

end Reader

def tokens? (line : List Char) : Option (List Token) := (line.foldl Reader.read {}).finish?

/-! ### Commands -/

/-- A redirection of the output or of the error output: to the place of the other, or to a file. -/
inductive Redirection
  | same (ofErrors toErrors : Bool)
  | file (ofErrors appends : Bool) (target : Word)
  deriving DecidableEq, Repr

/-- Whether it is the error output that is redirected. -/
def Redirection.ofErrors : Redirection → Bool
  | .same ofErrors _ | .file ofErrors .. => ofErrors

structure Command where
  words : List Word := []
  redirections : List Redirection := []
  deriving DecidableEq, Repr

/-- When a command is run: whatever the status before it is, or only if that is good or bad. -/
inductive Condition | always | onSuccess | onFailure
  deriving DecidableEq, Repr

def Condition.isMet (status : Nat) : Condition → Bool
  | .always => true
  | .onSuccess => status = 0
  | .onFailure => status ≠ 0

abbrev Script := List (Condition × Command)

def redirection? (operator : List Char) (target : Word) : Option Redirection :=
  let ofErrors := operator.head? = some '2'
  match operator.filter fun c => !c.isDigit, target with
  | ['>', '&'], [.text ['1']] => some (.same ofErrors false)
  | ['>', '&'], [.text ['2']] => some (.same ofErrors true)
  | ['>'], target => some (.file ofErrors false target)
  | ['>', '>'], target => some (.file ofErrors true target)
  | _, _ => none

/-- The commands of tokens, of which one has been begun. Each command but the first and those at an
end needs a word or a redirection. -/
def scriptFrom? (condition : Condition) (c : Command) : List Token → Option Script
  | [] => if c = {} then (if condition = .always then some [] else none) else some [(condition, c)]
  | .word w :: rest => scriptFrom? condition { c with words := c.words ++ [w] } rest
  | .operator s :: .word w :: rest =>
    match redirection? s w with
    | some r => scriptFrom? condition { c with redirections := c.redirections ++ [r] } rest
    | none => (endedBy? s).bind fun next =>
      if c = {} then none
      else (scriptFrom? next { words := [w] } rest).map ((condition, c) :: ·)
  | .operator s :: rest =>
    (endedBy? s).bind fun next =>
      if c = {} then none else (scriptFrom? next {} rest).map ((condition, c) :: ·)
where
  /-- When the command behind an operator is run. -/
  endedBy? : List Char → Option Condition
    | [';'] => some .always
    | ['&', '&'] => some .onSuccess
    | ['|', '|'] => some .onFailure
    | _ => none

def script? (line : String) : Option Script :=
  (tokens? line.toList).bind (scriptFrom? .always {})

end Formwork.Shell
