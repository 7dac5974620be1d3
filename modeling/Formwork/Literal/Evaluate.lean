import Formwork.Literal.Grammar

/-!
Literals: the expressions that denote data without computing anything but the sum of a real and
an imaginary number.
-/

namespace Formwork.Literal

/-- Why a text is no literal: it is no expression, or the expression does not denote data. -/
inductive Problem
  | noExpression (message : String)
  | noData (message : String)
  deriving DecidableEq, Repr

/-- The kind of the part of a value that keeps it from being a key, if there is one. -/
abbrev Obstacle := Option String

/-- The problem with an expression that is no literal. -/
def malformed : String := "malformed node or string on line 1"

def unhashable (kind : String) : String := "unhashable type: '" ++ kind ++ "'"

def isSignedReal : Expression → Bool
  | .constant (.number isImaginary) => !isImaginary
  | .unary "+" (.constant (.number isImaginary)) => !isImaginary
  | .unary "-" (.constant (.number isImaginary)) => !isImaginary
  | _ => false

def requireKey : Obstacle → Except String Unit
  | some kind => .error (unhashable kind)
  | none => .ok ()

mutual

/-- What keeps the value of an expression from being a key, or why there is no value. -/
def evaluate : Expression → Except String Obstacle
  | .constant _ => .ok none
  | .tuple items => evaluateItems items
  | .set items => do
    evaluateKeys items
    return some "set"
  | .call (.name "set") false => .ok (some "set")
  | .dict entries => do
    evaluateEntries entries
    return some "dict"
  | .unary op (.constant (.number _)) =>
    if op = "+" ∨ op = "-" then .ok none else .error malformed
  | .binary op left (.constant (.number true)) =>
    if (op = "+" ∨ op = "-") ∧ isSignedReal left then .ok none else .error malformed
  | _ => .error malformed

def evaluateItems : List Expression → Except String Obstacle
  | [] => .ok none
  | e :: rest => do
    let obstacle ← evaluate e
    return obstacle.or (← evaluateItems rest)

def evaluateKeys : List Expression → Except String Unit
  | [] => .ok ()
  | e :: rest => do
    requireKey (← evaluate e)
    evaluateKeys rest

/-- Evaluates the entries of a dictionary one by one. Nothing can be unpacked. -/
def evaluateEntries : List (Option Expression × Expression) → Except String Unit
  | [] => .ok ()
  | (none, _) :: _ => .error "malformed node or string: None"
  | (some key, value) :: rest => do
    let obstacle ← evaluate key
    let _ ← evaluate value
    requireKey obstacle
    evaluateEntries rest

end

def check (text : String) : Except Problem Unit :=
  let cs := text.toList.dropWhile fun c => c = ' ' ∨ c = '\t'
  if cs.contains '\x00' then .error (.noData "source code string cannot contain null bytes")
  else
    match parse cs with
    | .error message => .error (.noExpression message)
    | .ok e =>
      match evaluate e with
      | .error message => .error (.noData message)
      | .ok _ => .ok ()

end Formwork.Literal
