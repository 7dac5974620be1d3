import Formwork.Literal.Reading

/-!
Expressions made up by operators, conditions and names, and mistakes in them.
-/

namespace Formwork.Literal

open Reader

namespace Rules

variable (rules : Rules)

/-- Operands with marks between them, read from the left. -/
def chainFrom (operand : Rule) (marks : List String) :
    (fuel : Nat) → Expression → Nat → Reader Found
  | 0, left, pos => return some (left, pos)
  | fuel + 1, left, pos => do
    match ← look pos with
    | .op mark =>
      if marks.contains mark then
        match ← rules operand (pos + 1) with
        | some (right, pos) => chainFrom operand marks fuel (.binary mark left right) pos
        | none => return some (left, pos)
      else return some (left, pos)
    | _ => return some (left, pos)

def chain (operand : Rule) (marks : List String) (pos : Nat) : Reader Found := do
  match ← rules operand pos with
  | some (left, pos) => rules.chainFrom operand marks (← bound) left pos
  | none => return none

def joinFrom (operand : Rule) (word : String) : (fuel : Nat) → Expression → Nat → Reader Found
  | 0, left, pos => return some (left, pos)
  | fuel + 1, left, pos => do
    if ← atWord word pos then
      match ← rules operand (pos + 1) with
      | some (_, pos) => joinFrom operand word fuel .boolean pos
      | none => return some (left, pos)
    else return some (left, pos)

def join (operand : Rule) (word : String) (pos : Nat) : Reader Found := do
  match ← rules operand pos with
  | some (left, pos) => rules.joinFrom operand word (← bound) left pos
  | none => return none

/-- The place behind a sign of comparison, and whether it asks for membership. -/
def comparator? (pos : Nat) : Reader (List (Bool × Nat)) := do
  match ← look pos with
  | .op mark =>
    return if ["==", "!=", "<=", "<", ">=", ">"].contains mark then [(false, pos + 1)] else []
  | .name "in" => return [(true, pos + 1)]
  | .name "not" => return if ← atWord "in" (pos + 1) then [(false, pos + 2)] else []
  | .name "is" =>
    return (if ← atWord "not" (pos + 1) then [(false, pos + 2)] else []) ++ [(false, pos + 1)]
  | _ => return []

def firstOperand : List (Bool × Nat) → Reader (Option (Bool × Nat))
  | [] => return none
  | (isMembership, pos) :: rest => do
    match ← rules .bitOr pos with
    | some (_, pos) => return some (isMembership, pos)
    | none => firstOperand rest

def comparisonFrom (first : Option Bool) :
    (fuel : Nat) → Expression → Nat → Reader Found
  | 0, left, pos => return some (left, pos)
  | fuel + 1, left, pos => do
    match ← rules.firstOperand (← comparator? pos) with
    | some (isMembership, pos) => comparisonFrom (first.or (some isMembership)) fuel left pos
    | none =>
      return some (match first with
        | some isMembership => (.comparison left isMembership, pos)
        | none => (left, pos))

/-- Expressions with commas between them, and one more comma at the end if need be. Nothing
follows where no item is found. -/
def itemsFrom (item : Rule) : (fuel : Nat) → (read : List Expression) → Nat → Reader Found
  | 0, read, pos => return some (.tuple read.reverse, pos)
  | fuel + 1, read, pos => do
    match ← rules item pos with
    | none => return some (.tuple read.reverse, pos)
    | some (e, pos) =>
      if ← atMark "," pos then itemsFrom item fuel (e :: read) (pos + 1)
      else return some (.tuple (e :: read).reverse, pos)

def items (item : Rule) (pos : Nat) : Reader Found := do
  match ← rules.itemsFrom item (← bound) [] pos with
  | some (.tuple [], _) => return none
  | found => return found

def tupleOr (item : Rule) (pos : Nat) : Reader Found := do
  match ← rules.items item pos with
  | some (.tuple [e], behind) =>
    return some (if ← atMark "," (behind - 1) then .tuple [e] else e, behind)
  | found => return found

def isFormerStatement : Expression → Bool
  | .name word => word = "print" || word = "exec"
  | _ => false

/-- Mistakes in an expression: a comma is missing inside brackets, a condition has no second part,
or a former statement has no brackets. -/
def explainExpression (pos : Nat) : Reader Unit := do
  let isWordBeforeText ← match ← look pos with
    | .name word =>
      if ["_", "case", "match"].contains word then pure true
      else if reservedWords.contains word then pure false
      else match ← look (pos + 1) with
        | .text _ _ => pure true
        | _ => pure false
    | _ => pure false
  let adjacent : Bool ←
    if isWordBeforeText then pure false
    else match ← rules .disjunction pos with
      | none => pure false
      | some (a, behind) =>
        match ← rules .bareExpression behind with
        | none => pure false
        | some (_, behind) =>
          if !isFormerStatement a && (← levelAt (behind - 1)) ≠ 0 then
            refuse "invalid syntax. Perhaps you forgot a comma?"
          else pure true
  if !adjacent then
    if let some (_, behind) ← rules .disjunction pos then
      if ← atWord "if" behind then
        if let some (_, behind) ← rules .disjunction (behind + 1) then
          if !(← atWord "else" behind) && !(← atMark ":" behind) then
            refuse "expected 'else' after 'if' expression"
  if let some word ← nameAt? pos then
    if !(← atMark "(" (pos + 1)) then
      if let some _ ← rules .starExpressions (pos + 1) then
        if isFormerStatement (.name word) then
          refuse ("Missing parentheses in call to '" ++ word ++ "'. Did you mean " ++ word ++
            "(...)?")

/-- A conditional expression, a disjunction or a lambda. -/
def bareExpression (pos : Nat) : Reader Found := do
  match ← rules .disjunction pos with
  | none => rules .lambda pos
  | some (e, behind) =>
    if ← atWord "if" behind then
      match ← rules .disjunction (behind + 1) with
      | none => return some (e, behind)
      | some (_, middle) =>
        if ← atWord "else" middle then
          match ← rules .expression (middle + 1) with
          | some (_, last) => return some (.conditional, last)
          | none => return some (e, behind)
        else return some (e, behind)
    else return some (e, behind)

def expression (pos : Nat) : Reader Found := do
  if ← explains then rules.explainExpression pos
  rules.bareExpression pos

def assignment (pos : Nat) : Reader Found := do
  match ← nameAt? pos with
  | none => return none
  | some _ =>
    if ← atMark ":=" (pos + 1) then
      return (← rules .expression (pos + 2)).map fun found => (.named, found.2)
    else return none

def atAssignment (pos : Nat) : Reader Bool := atAnyMark ["=", ":="] pos

/-- Mistakes in an expression that may have a name: something else has one, or a single equals
sign stands in the place of two. -/
def explainNamed (pos : Nat) : Reader Unit := do
  if let some (e, behind) ← rules .expression pos then
    if ← atMark ":=" behind then
      if let some _ ← rules .expression (behind + 1) then
        refuse ("cannot use assignment expressions with " ++ e.kind)
  if let some _ ← nameAt? pos then
    if ← atMark "=" (pos + 1) then
      if let some (_, behind) ← rules .bitOr (pos + 2) then
        if !(← atAssignment behind) then
          refuse "invalid syntax. Maybe you meant '==' or ':=' instead of '='?"
  if let some (e, behind) ← rules .bitOr pos then
    if ← atMark "=" behind then
      let isWhole ← match ← look pos with
        | .name word => pure (["True", "None", "False"].contains word)
        | .op "(" =>
          match ← rules .atom pos with
          | some (.tuple _, _) | some (.generator, _) => pure true
          | _ => pure false
        | _ => pure false
      if !isWhole then
        if let some (_, behind) ← rules .bitOr (behind + 1) then
          if !(← atAssignment behind) then
            refuse ("cannot assign to " ++ e.kind ++
              " here. Maybe you meant '==' instead of '='?")

def named (pos : Nat) : Reader Found := do
  if let some found ← rules .assignment pos then return some found
  if ← explains then let _ ← rules .namedMistakes pos
  match ← rules .expression pos with
  | some (e, behind) => if ← atMark ":=" behind then return none else return some (e, behind)
  | none => return none

def starred (other : Rule) (pos : Nat) : Reader Found := do
  if ← atMark "*" pos then
    if let some (e, behind) ← rules .bitOr (pos + 1) then return some (.starred e, behind)
  rules other pos

def signed (marks : List String) (other : Rule) (pos : Nat) : Reader Found := do
  match ← look pos with
  | .op mark =>
    if marks.contains mark then
      return (← rules .factor (pos + 1)).map fun found => (.unary mark found.1, found.2)
    else rules other pos
  | _ => rules other pos

def power (pos : Nat) : Reader Found := do
  match ← rules .awaited pos with
  | none => return none
  | some (e, behind) =>
    if ← atMark "**" behind then
      match ← rules .factor (behind + 1) with
      | some (exponent, last) => return some (.binary "**" e exponent, last)
      | none => return some (e, behind)
    else return some (e, behind)

structure Parameters where
  count : Nat := 0
  hasDefault : Bool := false
  hasSlash : Bool := false
  hasStar : Bool := false
  needsName : Bool := false

/-- The place behind the parameters of a lambda. A default is followed by defaults up to a star,
and behind a bare star there is at least one name. -/
def parametersFrom : (fuel : Nat) → Parameters → Nat → Reader Nat
  | 0, _, pos => return pos
  | fuel + 1, p, pos => do
    let next (p : Parameters) (behind : Nat) : Reader Nat := do
      if ← atMark "," behind then parametersFrom fuel p (behind + 1)
      else if ← atMark ":" behind then return behind
      else return pos
    match ← look pos with
    | .op "/" =>
      if p.count = 0 ∨ p.hasSlash ∨ p.hasStar then return pos
      else next { p with hasSlash := true } (pos + 1)
    | .op "*" =>
      if p.hasStar then return pos
      else
        let p := { p with hasStar := true, hasDefault := false }
        match ← nameAt? (pos + 1) with
        | some _ => next p (pos + 2)
        | none =>
          if ← atMark "," (pos + 1) then
            parametersFrom fuel { p with needsName := true } (pos + 2)
          else return pos
    | .op "**" =>
      if p.needsName then return pos
      else
        match ← nameAt? (pos + 1) with
        | some _ => return if ← atMark "," (pos + 2) then pos + 3 else pos + 2
        | none => return pos
    | _ =>
      match ← nameAt? pos with
      | none => return pos
      | some _ =>
        let p := { p with count := p.count + 1, needsName := false }
        if ← atMark "=" (pos + 1) then
          match ← rules .expression (pos + 2) with
          | some (_, behind) => next { p with hasDefault := !p.hasStar } behind
          | none => return pos
        else if p.hasDefault then return pos
        else next p (pos + 1)

def lambda (pos : Nat) : Reader Found := do
  if !(← atWord "lambda" pos) then return none
  let behind ← rules.parametersFrom (← bound) {} (pos + 1)
  if ← atMark ":" behind then
    return (← rules .expression (behind + 1)).map fun found => (.lambda, found.2)
  else return none

end Rules

end Formwork.Literal
