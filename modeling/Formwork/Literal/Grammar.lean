import Formwork.Literal.Calls

/-!
The grammar of expressions, and what is wrong with a text that is none.
-/

namespace Formwork.Literal

open Reader

namespace Rules

variable (rules : Rules)

/-- What a rule reads, given the rules that it refers to. -/
def step : Rule → Nat → Reader Found
  | .expressions => rules.tupleOr .expression
  | .expression => rules.expression
  | .bareExpression => fun pos => plainly (rules.bareExpression pos)
  | .starExpressions => rules.tupleOr .starExpression
  | .starExpression => rules.starred .expression
  | .starNamedItems => rules.items .starNamed
  | .starNamed => rules.starred .named
  | .named => rules.named
  | .namedMistakes => fun pos => do
    rules.explainNamed pos
    return none
  | .assignment => rules.assignment
  | .disjunction => rules.join .conjunction "or"
  | .conjunction => rules.join .inversion "and"
  | .inversion => fun pos => do
    if ← atWord "not" pos then
      return (← rules .inversion (pos + 1)).map fun found => (.unary "not" found.1, found.2)
    else rules .comparison pos
  | .comparison => fun pos => do
    match ← rules .bitOr pos with
    | some (left, behind) =>
      rules.comparisonFrom none (← bound) left behind
    | none => return none
  | .bitOr => rules.chain .bitXor ["|"]
  | .bitXor => rules.chain .bitAnd ["^"]
  | .bitAnd => rules.chain .shift ["&"]
  | .shift => rules.chain .sum ["<<", ">>"]
  | .sum => rules.chain .term ["+", "-"]
  | .term => rules.chain .factor ["*", "/", "//", "%", "@"]
  | .factor => rules.signed ["+", "-", "~"] .power
  | .power => rules.power
  | .awaited => fun pos => do
    if ← atWord "await" pos then
      return (← rules .primary (pos + 1)).map fun found => (.awaited, found.2)
    else rules .primary pos
  | .primary => rules.primary
  | .atom => rules.atom
  | .generator => rules.generator
  | .clauses => rules.clauses
  | .arguments => rules.arguments
  | .lambda => rules.lambda
  | .entries => rules.entries

/-- The rules, which refer to each other at most `fuel` times. -/
def all : (fuel : Nat) → Rules
  | 0 => fun _ _ => throw .missing
  | fuel + 1 => fun rule pos => do
    if rule.isKept then
      match ← remembered rule pos with
      | some found => return found
      | none =>
        let found ← step (all fuel) rule pos
        keep rule pos found
        return found
    else step (all fuel) rule pos

end Rules

def skipLineEnds : (fuel : Nat) → Nat → Reader Nat
  | 0, pos => return pos
  | fuel + 1, pos => do
    if (← look pos) = .lineEnd then skipLineEnds fuel (pos + 1) else return pos

def wholeExpression : Reader (Option Expression) := do
  let size ← bound
  match ← Rules.all (64 * size + 64) .expressions 0 with
  | none => return none
  | some (e, behind) =>
    return if (← look (← skipLineEnds size behind)) = .finish then some e else none

def Ending.message : Ending → String
  | .complete => "invalid syntax"
  | .fault message => message
  | .missingBracket opened => "'" ++ opened.char.toString ++ "' was never closed"
  | .missingLine => "unexpected EOF while parsing"
  | .brokenLine => "unexpected character after line continuation character"
  | .unevenIndent => "unindent does not match any outer indentation level"
  | .mixedIndent => "inconsistent use of tabs and spaces in indentation"

/-- The problem that counts when another one has been found, where `seen` tokens have been looked
at: a character that begins no token, or a bracket of an earlier line that is never closed. -/
def Ending.overrule (e : Ending) (seen : Option Lexeme) (problem : String) : String :=
  match e with
  | .fault message => message
  | .missingBracket opened =>
    if seen.any fun l => opened.line < l.line then e.message else problem
  | _ => problem

/-- The expression of a text, or what is wrong with the text. -/
def parse (cs : List Char) : Except String Expression :=
  let (lexemes, ending) := tokens cs
  let lexemes := lexemes.toArray
  let run (explains : Bool) (seen : Nat) : Except Refusal (Option Expression) × Nat :=
    let found := Array.replicate (lexemes.size + 1) []
    let (result, progress) := ((wholeExpression.run { lexemes, explains }).run).run { seen, found }
    (result, progress.seen)
  let last (seen : Nat) : Option Lexeme := lexemes[seen - 1]?
  let lastToken (seen : Nat) : Option Token := (last seen).map (·.token)
  match run false 0 with
  | (.ok (some e), _) => .ok e
  | (.error .missing, _) => .error ending.message
  | (.error (.because problem), seen) => .error (ending.overrule (last seen) problem)
  | (.ok none, seen) =>
    match run true seen with
    | (.error .missing, _) => .error ending.message
    | (.error (.because problem), seen) => .error (ending.overrule (last seen) problem)
    | (.ok _, seen') =>
      match lastToken seen with
      | some .indent => .error "unexpected indent"
      | some .dedent => .error "unexpected unindent"
      | _ => .error (ending.overrule (last seen') "invalid syntax")

end Formwork.Literal
