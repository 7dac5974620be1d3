import Formwork.Literal.Brackets

/-!
Calls and their arguments, and mistakes in them.
-/

namespace Formwork.Literal

open Reader

namespace Rules

variable (rules : Rules)

def positional (pos : Nat) : Reader Found := do
  if ← atMark "*" pos then
    if let some (e, behind) ← rules .expression (pos + 1) then return some (.starred e, behind)
  match ← rules.unnamed pos with
  | some (e, behind) => if ← atMark "=" behind then return none else return some (e, behind)
  | none => return none

/-- Mistakes in an argument with a name. -/
def explainKeyword (pos : Nat) : Reader Unit := do
  match ← look pos with
  | .name word =>
    if ["True", "False", "None"].contains word then
      if ← atMark "=" (pos + 1) then refuse ("cannot assign to " ++ word)
  | _ => pure ()
  let isNamed ← match ← nameAt? pos with
    | some _ => atMark "=" (pos + 1)
    | none => pure false
  if isNamed then
    if let some (_, behind) ← rules .expression (pos + 2) then
      if let some _ ← rules .clauses behind then
        refuse "invalid syntax. Maybe you meant '==' or ':=' instead of '='?"
  else if let some (_, behind) ← rules .expression pos then
    if ← atMark "=" behind then
      refuse "expression cannot contain assignment, perhaps you meant \"==\"?"

def keyword (mark : String) (pos : Nat) : Reader Found := do
  if ← explains then rules.explainKeyword pos
  if let some _ ← nameAt? pos then
    if ← atMark "=" (pos + 1) then
      if let some (_, behind) ← rules .expression (pos + 2) then
        return some (.named, behind)
  if ← atMark mark pos then
    return (← rules .expression (pos + 1)).map fun found => (.unary mark found.1, found.2)
  return none

/-- Arguments of a kind with commas between them, and the place behind, without a comma. -/
def argumentsOf (item : Nat → Reader Found) :
    (fuel : Nat) → (read : List Expression) → (behind : Nat) → Nat →
      Reader (List Expression × Nat)
  | 0, read, behind, _ => return (read.reverse, behind)
  | fuel + 1, read, behind, pos => do
    match ← item pos with
    | none => return (read.reverse, behind)
    | some (e, behind) =>
      if ← atMark "," behind then argumentsOf item fuel (e :: read) behind (behind + 1)
      else return ((e :: read).reverse, behind)

def keywords (pos : Nat) : Reader (List Expression × Nat) := do
  let fuel ← bound
  let (first, behind) ← argumentsOf (rules.keyword "*") fuel [] pos pos
  if first.isEmpty then argumentsOf (rules.keyword "**") fuel [] pos pos
  else if ← atMark "," behind then
    let (more, last) ← argumentsOf (rules.keyword "**") fuel [] behind (behind + 1)
    return (first ++ more, last)
  else return (first, behind)

def allArguments (pos : Nat) : Reader (Option (List Expression × Nat)) := do
  let fuel ← bound
  let (first, behind) ← argumentsOf rules.positional fuel [] pos pos
  let (args, behind) ←
    if first.isEmpty then rules.keywords pos
    else if ← atMark "," behind then
      let (more, last) ← rules.keywords (behind + 1)
      pure (if more.isEmpty then (first, behind) else (first ++ more, last))
    else pure (first, behind)
  return if args.isEmpty then none else some (args, behind)

/-- Mistakes in arguments. -/
def explainArguments (pos : Nat) : Reader Unit := do
  let bare := "Generator expression must be parenthesized"
  let args ← rules.allArguments pos
  if let some (_, behind) := args then
    if ← atMark "," behind then
      if ← atMark "*" (behind + 1) then
        refuse "iterable argument unpacking follows keyword argument unpacking"
  if let some (_, behind) ← rules .expression pos then
    if let some (_, behind) ← rules .clauses behind then
      if ← atMark "," behind then refuse bare
  if let some _ ← nameAt? pos then
    if ← atMark "=" (pos + 1) then
      if let some (_, behind) ← rules .expression (pos + 2) then
        if let some _ ← rules .clauses behind then
          refuse "invalid syntax. Maybe you meant '==' or ':=' instead of '='?"
  if let some (args, behind) := args then
    let positional := args.filter fun | .named | .unary "**" _ => false | _ => true
    if let some _ ← rules .clauses behind then
      if 1 < positional.length then refuse bare else return
    if ← atMark "," behind then
      if let some (_, last) ← rules .expression (behind + 1) then
        if let some _ ← rules .clauses last then refuse bare
      if let some _ ← rules.allArguments (behind + 1) then
        refuse ("positional argument follows keyword argument" ++
          if args.any fun | .unary "**" _ => true | _ => false then " unpacking" else "")

def arguments (pos : Nat) : Reader Found := do
  if let some (args, behind) ← rules.allArguments pos then
    let behind := if ← atMark "," behind then behind + 1 else behind
    if ← atMark ")" behind then return some (.tuple args, behind)
  if ← explains then rules.explainArguments pos
  return none

/-- Members and calls behind an expression. -/
def primaryFrom : (fuel : Nat) → Expression → Nat → Reader Found
  | 0, e, pos => return some (e, pos)
  | fuel + 1, e, pos => do
    if ← atMark "." pos then
      if let some _ ← nameAt? (pos + 1) then return ← primaryFrom fuel .attribute (pos + 2)
    if let some (_, behind) ← rules .generator pos then
      return ← primaryFrom fuel (.call e true) behind
    if ← atMark "(" pos then
      let (hasArguments, behind) ← match ← rules .arguments (pos + 1) with
        | some (_, behind) => pure (true, behind)
        | none => pure (false, pos + 1)
      if ← atMark ")" behind then
        return ← primaryFrom fuel (.call e hasArguments) (behind + 1)
    return some (e, pos)

def primary (pos : Nat) : Reader Found := do
  match ← rules .atom pos with
  | some (e, behind) => rules.primaryFrom (← bound) e behind
  | none => return none

end Rules

end Formwork.Literal
