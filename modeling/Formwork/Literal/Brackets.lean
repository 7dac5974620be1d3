import Formwork.Literal.Operators
import Formwork.Literal.Text
import Formwork.Number.Reading

/-!
Expressions in brackets: tuples, dictionaries, sets and comprehensions, and the smallest
expressions.
-/

namespace Formwork.Literal

open Reader

namespace Rules

variable (rules : Rules)

def textsFrom : (fuel : Nat) → (read : List (TextKind × List Char)) → Nat →
    Reader (List (TextKind × List Char) × Nat)
  | 0, read, pos => return (read.reverse, pos)
  | fuel + 1, read, pos => do
    match ← look pos with
    | .text kind body => textsFrom fuel ((kind, body) :: read) (pos + 1)
    | _ => return (read.reverse, pos)

/-- Items in round brackets: a tuple, an expression alone, or the items of a generator. -/
def round (pos : Nat) : Reader Found := do
  let first ← rules .starNamed (pos + 1)
  match first with
  | some (e, behind) =>
    if ← atMark "," behind then
      if let some (rest, behind) ←
          rules.itemsFrom .starNamed (← bound) [] (behind + 1) then
        if ← atMark ")" behind then return some (.tuple (e :: rest.items), behind + 1)
  | none => if ← atMark ")" (pos + 1) then return some (.tuple [], pos + 2)
  if ← atWord "yield" (pos + 1) then
    let behind ←
      if ← atWord "from" (pos + 2) then
        match ← rules .expression (pos + 3) with
        | some (_, behind) => pure behind
        | none => pure (pos + 2)
      else pure (pos + 2)
    let behind ←
      if behind = pos + 2 then
        match ← rules .starExpressions behind with
        | some (_, behind) => pure behind
        | none => pure behind
      else pure behind
    if ← atMark ")" behind then return some (.yielded, behind + 1)
  match first with
  | some (.starred _, _) | none => pure ()
  | some (e, behind) => if ← atMark ")" behind then return some (e, behind + 1)
  if ← explains then
    for (mark, word) in [("*", "starred"), ("**", "double starred")] do
      if ← atMark mark (pos + 1) then
        if let some (_, behind) ← rules .expression (pos + 2) then
          if ← atMark ")" behind then
            refuse ("cannot use " ++ word ++ " expression here")
  rules .generator pos

/-- Mistakes in a comprehension: its item is unpacked, or is several items without brackets. -/
def explainComprehension (pos : Nat) : Reader Unit := do
  let isCurly ← atMark "\x7b" pos
  if isCurly || (← atMark "(" pos) then
    if ← atMark "*" (pos + 1) then
      if let some (_, behind) ← rules .expression (pos + 2) then
        if let some _ ← rules .clauses behind then
          refuse "iterable unpacking cannot be used in comprehension"
  if isCurly then
    if let some (_, behind) ← rules .starNamed (pos + 1) then
      if ← atMark "," behind then
        let behind ← match ← rules .starNamedItems (behind + 1) with
          | some (_, behind) => pure behind
          | none => pure (behind + 1)
        if let some _ ← rules .clauses behind then
          refuse "did you forget parentheses around the comprehension target?"

def unnamed (pos : Nat) : Reader Found := do
  if let some found ← rules .assignment pos then return some found
  match ← rules .expression pos with
  | some (e, behind) => if ← atMark ":=" behind then return none else return some (e, behind)
  | none => return none

def generator (pos : Nat) : Reader Found := do
  if ← atMark "(" pos then
    if let some (_, behind) ← rules.unnamed (pos + 1) then
      if let some (_, behind) ← rules .clauses behind then
        if ← atMark ")" behind then return some (.generator, behind + 1)
  if ← explains then rules.explainComprehension pos
  return none

/-- What a value is assigned to: a name, a member, or several of them. -/
def target (pos : Nat) : Reader Found := do
  let isStarred ← atMark "*" pos
  match ← rules .primary (if isStarred then pos + 1 else pos) with
  | some (e, behind) => return if e.isTarget then some (e, behind) else none
  | none => return none

def targetsFrom : (fuel : Nat) → Nat → Reader (Option Nat)
  | 0, pos => return some pos
  | fuel + 1, pos => do
    match ← rules.target pos with
    | none => return none
    | some (_, behind) =>
      if ← atMark "," behind then return ((← targetsFrom fuel (behind + 1)).getD (behind + 1))
      else return some behind

def conditionsFrom : (fuel : Nat) → Nat → Reader Nat
  | 0, pos => return pos
  | fuel + 1, pos => do
    if ← atWord "if" pos then
      match ← rules .disjunction (pos + 1) with
      | some (_, behind) => conditionsFrom fuel behind
      | none => return pos
    else return pos

/-- The place behind one clause of a comprehension. -/
def clause (pos : Nat) : Reader (Option Nat) := do
  let fuel ← bound
  let start := if ← atWord "async" pos then pos + 1 else pos
  if !(← atWord "for" start) then return none
  if let some behind ← rules.targetsFrom fuel (start + 1) then
    if ← atWord "in" behind then
      match ← rules .disjunction (behind + 1) with
      | some (_, behind) => return some (← rules.conditionsFrom fuel behind)
      | none => return none
  if ← explains then
    if let some (e, _) ← rules .starExpressions (start + 1) then
      if let some bad := e.badTarget? then refuse ("cannot assign to " ++ bad.kind)
  return none

def clausesFrom : (fuel : Nat) → Nat → Reader Nat
  | 0, pos => return pos
  | fuel + 1, pos => do
    match ← rules.clause pos with
    | some behind => clausesFrom fuel behind
    | none => return pos

def clauses (pos : Nat) : Reader Found := do
  match ← rules.clause pos with
  | some behind =>
    return some (.generator, ← rules.clausesFrom (← bound) behind)
  | none => return none

/-- An entry of a dictionary, or a dictionary that is unpacked. -/
def entry (pos : Nat) : Reader (Option ((Option Expression × Expression) × Nat)) := do
  if ← atMark "**" pos then
    return (← rules .bitOr (pos + 1)).map fun found => ((none, found.1), found.2)
  match ← rules .expression pos with
  | none => return none
  | some (key, behind) =>
    if ← atMark ":" behind then
      return (← rules .expression (behind + 1)).map fun found => ((some key, found.1), found.2)
    else return none

/-- Entries with commas between them, and the place behind, with or without a comma. -/
def entriesFrom : (fuel : Nat) → (read : List (Option Expression × Expression)) → Nat →
    Reader (List (Option Expression × Expression) × Nat)
  | 0, read, pos => return (read.reverse, pos)
  | fuel + 1, read, pos => do
    match ← rules.entry pos with
    | none => return (read.reverse, pos)
    | some (e, pos) =>
      if ← atMark "," pos then entriesFrom fuel (e :: read) (pos + 1)
      else return ((e :: read).reverse, pos)

def entries (pos : Nat) : Reader Found := do
  let (entries, behind) ← rules.entriesFrom (← bound) [] pos
  return some (.dict entries, behind)

def explainEntry (needsColon : Bool) (pos : Nat) : Reader Unit := do
  if let some (_, behind) ← rules .expression pos then
    if ← atMark ":" behind then
      if ← atMark "*" (behind + 1) then
        if let some _ ← rules .bitOr (behind + 2) then
          refuse "cannot use a starred expression in a dictionary value"
      if ← atAnyMark ["\x7d", ","] (behind + 1) then
        refuse "expression expected after dictionary key and ':'"
    else if needsColon then refuse "':' expected after dictionary key"

def explainEntries (pos : Nat) : Reader Unit := do
  if let some (.dict entries, behind) ← rules .entries pos then
    if !entries.isEmpty && (← atMark "," (behind - 1)) then rules.explainEntry true behind
  rules.explainEntry false pos

/-- Items in curly brackets: a dictionary, a set, or a comprehension of them. -/
def curly (pos : Nat) : Reader Found := do
  if let some (e, behind) ← rules .entries (pos + 1) then
    if ← atMark "\x7d" behind then return some (e, behind + 1)
  rules.explainEntries (pos + 1)
  if let some (e, behind) ← rules .starNamedItems (pos + 1) then
    if ← atMark "\x7d" behind then return some (.set e.items, behind + 1)
  if let some ((some _, _), behind) ← rules.entry (pos + 1) then
    if let some (_, behind) ← rules .clauses behind then
      if ← atMark "\x7d" behind then return some (.dictComprehension, behind + 1)
  if ← explains then
    if ← atMark "**" (pos + 1) then
      if let some (_, behind) ← rules .bitOr (pos + 2) then
        if let some (_, behind) ← rules .clauses behind then
          if ← atMark "\x7d" behind then
            refuse "dict unpacking cannot be used in dict comprehension"
  if let some (_, behind) ← rules .named (pos + 1) then
    if let some (_, behind) ← rules .clauses behind then
      if ← atMark "\x7d" behind then return some (.setComprehension, behind + 1)
  if ← explains then rules.explainComprehension pos
  return none

def checkDigits (digits : Nat) : Reader Unit := do
  if Number.longestInteger < digits then
    refuse ((Number.Reading.IntegerFault.oversized digits).message ++
      " - Consider hexadecimal for huge integer literals to avoid decimal conversion limits.")

/-- The smallest expressions. -/
def atom (pos : Nat) : Reader Found := do
  match ← look pos with
  | .name "None" => return some (.constant .none, pos + 1)
  | .name "True" => return some (.constant (.truth true), pos + 1)
  | .name "False" => return some (.constant (.truth false), pos + 1)
  | .name word => return if reservedWords.contains word then none else some (.name word, pos + 1)
  | .number isImaginary digits =>
    checkDigits digits
    return some (.constant (.number isImaginary), pos + 1)
  | .text _ _ =>
    let (texts, behind) ← textsFrom (← bound) [] pos
    match joinTexts texts with
    | .ok e => return some (e, behind)
    | .error problem => refuse problem
  | .op "..." => return some (.constant .ellipsis, pos + 1)
  | .op "(" => rules.round pos
  | .op "\x7b" => rules.curly pos
  | _ => return none

end Rules

end Formwork.Literal
