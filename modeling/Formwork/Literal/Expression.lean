import Formwork.Literal.Token

/-!
Expressions, as far as it matters which of them denote data and how messages call them.
-/

namespace Formwork.Literal

inductive Constant
  | none
  | truth (b : Bool)
  | ellipsis
  | number (isImaginary : Bool)
  | text
  | octets
  deriving DecidableEq, Repr

/-- An expression. A dictionary has entries without a key where another one is unpacked. -/
inductive Expression
  | name (text : String)
  | constant (c : Constant)
  | formatted
  | tuple (items : List Expression)
  | set (items : List Expression)
  | dict (entries : List (Option Expression × Expression))
  | setComprehension
  | dictComprehension
  | generator
  | call (function : Expression) (hasArguments : Bool)
  | attribute
  | lambda
  | unary (op : String) (operand : Expression)
  | binary (op : String) (left right : Expression)
  | boolean
  | comparison (left : Expression) (isMembership : Bool)
  | conditional
  | named
  | starred (value : Expression)
  | yielded
  | awaited
  deriving Inhabited

namespace Expression

/-- What messages call an expression. -/
def kind : Expression → String
  | .name _ => "name"
  | .constant .none => "None"
  | .constant (.truth b) => if b then "True" else "False"
  | .constant .ellipsis => "ellipsis"
  | .constant _ => "literal"
  | .formatted => "f-string expression"
  | .tuple _ => "tuple"
  | .set _ => "set display"
  | .dict _ => "dict literal"
  | .setComprehension => "set comprehension"
  | .dictComprehension => "dict comprehension"
  | .generator => "generator expression"
  | .call _ _ => "function call"
  | .attribute => "attribute"
  | .lambda => "lambda"
  | .unary _ _ | .binary _ _ _ | .boolean => "expression"
  | .comparison _ _ => "comparison"
  | .conditional => "conditional expression"
  | .named => "named expression"
  | .starred _ => "starred"
  | .yielded => "yield expression"
  | .awaited => "await expression"

def items : Expression → List Expression
  | .tuple items => items
  | e => [e]

def isTarget : Expression → Bool
  | .name _ | .attribute => true
  | .tuple items => areTargets items
  | .starred e => e.isTarget
  | _ => false
where
  /-- Whether values can be assigned to all expressions. -/
  areTargets : List Expression → Bool
    | [] => true
    | e :: rest => e.isTarget && areTargets rest

/-- The first part of an expression behind `for` that no value can be assigned to. Of a membership
the left side counts. -/
def badTarget? : Expression → Option Expression
  | .name _ | .attribute => none
  | .tuple items => firstBad items
  | .starred e => e.badTarget?
  | .comparison left isMembership => if isMembership then left.badTarget? else none
  | e => some e
where
  /-- The first such part of several expressions. -/
  firstBad : List Expression → Option Expression
    | [] => none
    | e :: rest => e.badTarget?.or (firstBad rest)

end Expression

end Formwork.Literal
