import Formwork.Literal.Expression

/-!
Reading of tokens by rules. Alternatives are tried in order, and the first that fits counts. A
text that is no expression is read once more with the rules for frequent mistakes, which say what
is wrong.
-/

namespace Formwork.Literal

/-- Why a text is no expression: a problem that a rule has found, or tokens that are missing. -/
inductive Refusal
  | because (message : String)
  | missing
  deriving DecidableEq, Repr

structure Source where
  lexemes : Array Lexeme
  explains : Bool := false

abbrev Found := Option (Expression × Nat)

inductive Rule
  | expressions
  | expression
  | bareExpression
  | starExpressions
  | starExpression
  | starNamedItems
  | starNamed
  | named
  | namedMistakes
  | assignment
  | disjunction
  | conjunction
  | inversion
  | comparison
  | bitOr
  | bitXor
  | bitAnd
  | shift
  | sum
  | term
  | factor
  | power
  | awaited
  | primary
  | atom
  | generator
  | clauses
  | arguments
  | lambda
  | entries
  deriving DecidableEq, Repr

/-- Whether what a rule finds at a place is kept, so that the rule is not tried there again. What
has been found without the rules for mistakes counts also where they apply. -/
def Rule.isKept : Rule → Bool
  | .expression | .starExpression | .namedMistakes | .disjunction | .conjunction | .inversion
  | .bitOr | .bitXor | .bitAnd | .shift | .sum | .term | .factor | .awaited | .primary
  | .arguments => true
  | _ => false

/-- How many tokens have been looked at, and what has been found at each place. -/
structure Progress where
  seen : Nat := 0
  found : Array (List (Rule × Found)) := #[]

abbrev Reader := ReaderT Source (ExceptT Refusal (StateM Progress))

abbrev Rules := Rule → Nat → Reader Found

namespace Reader

def look (pos : Nat) : Reader Token := do
  let s ← read
  modify fun p => { p with seen := max p.seen (pos + 1) }
  match s.lexemes[pos]? with
  | some l => return l.token
  | none => throw .missing

def atMark (mark : String) (pos : Nat) : Reader Bool := return (← look pos) == .op mark

def atWord (word : String) (pos : Nat) : Reader Bool := return (← look pos) == .name word

def atAnyMark (marks : List String) (pos : Nat) : Reader Bool := do
  match ← look pos with
  | .op mark => return marks.contains mark
  | _ => return false

def bound : Reader Nat := return (← read).lexemes.size + 1

def remembered (rule : Rule) (pos : Nat) : Reader (Option Found) :=
  return ((← get).found.getD pos []).lookup rule

def keep (rule : Rule) (pos : Nat) (found : Found) : Reader Unit :=
  modify fun p => { p with found := p.found.modify pos ((rule, found) :: ·) }

def explains : Reader Bool := return (← read).explains

def plainly {α : Type} (r : Reader α) : Reader α :=
  fun s => r { s with explains := false }

def refuse {α : Type} (message : String) : Reader α := throw (.because message)

/-- The number of brackets that are open behind the token at a place. -/
def levelAt (pos : Nat) : Reader Nat := return (((← read).lexemes[pos]?).map (·.level)).getD 0

end Reader

open Reader

def reservedWords : List String :=
  ["False", "None", "True", "and", "as", "assert", "async", "await", "break", "class", "continue",
    "def", "del", "elif", "else", "except", "finally", "for", "from", "global", "if", "import",
    "in", "is", "lambda", "nonlocal", "not", "or", "pass", "raise", "return", "try", "while",
    "with", "yield"]

def nameAt? (pos : Nat) : Reader (Option String) := do
  match ← look pos with
  | .name word => return if reservedWords.contains word then none else some word
  | _ => return none

end Formwork.Literal
