import Formwork.Shell.Syntax
import Formwork.Subprocess

/-!
A small system for children: a shell for lines without compound commands, and a few programs that
print, wait, or end themselves. No file is a program.
-/

namespace Formwork.Shell

open Text (Octets)
open Subprocess (Ending Fault Launch System)

inductive Sink
  | output
  | errors
  | file (place : Place)
  deriving DecidableEq, Repr

/-- A child while it runs. Time is in thousandths of a second. -/
structure Machine where
  tree : FileTree
  directory : Place
  assigned : List (String × String)
  parameters : List String := []
  out : Sink := .output
  err : Sink := .errors
  status : Nat := 0
  output : Octets := []
  errors : Octets := []
  elapsed : Nat := 0

inductive Stop
  | exit (code : Nat)
  | killed (signal : Nat)
  deriving DecidableEq, Repr

/-- The status of a line that has been stopped. -/
def Stop.status : Stop → Nat
  | .exit code => code
  | .killed signal => 128 + signal

abbrev ShellM := ExceptT Stop (StateM Machine)

/-- The number by which a child knows itself. -/
def ownNumber : String := "4711"

/-! ### Printing -/

def put (sink : Sink) (octets : Octets) : ShellM Unit :=
  modify fun m =>
    match sink with
    | .output => { m with output := m.output ++ octets }
    | .errors => { m with errors := m.errors ++ octets }
    | .file place =>
      match m.tree.lookup place with
      | some (.file content) => { m with tree := m.tree.put place (.file (content ++ octets)) }
      | _ => { m with tree := m.tree.put place (.file octets) }

def octetsOf (s : String) : Octets := Text.Utf8.nameOctets s.toList

def print (octets : Octets) : ShellM Unit := do put (← get).out octets

def complain (message : String) : ShellM Unit := do put (← get).err (octetsOf (message ++ "\n"))

/-- The number that octal digits write, of which there are at most `most`, and what follows. -/
def octal (value : Nat) : (most : Nat) → List Char → Nat × List Char
  | most + 1, c :: rest =>
    if '0' ≤ c ∧ c ≤ '7' then octal (8 * value + (c.toNat - 48)) most rest else (value, c :: rest)
  | _, rest => (value, rest)

/-- Characters that a letter behind a backslash stands for. -/
def letterEscapes : List (Char × Nat) :=
  [('a', 7), ('b', 8), ('f', 12), ('n', 10), ('r', 13), ('t', 9), ('v', 11), ('\\', 92)]

/-- The octet of an escape whose backslash has been read, and what follows. Octal digits begin with
a zero where `zeroFirst` is set. -/
def escape? (zeroFirst : Bool) : List Char → Option (UInt8 × List Char)
  | c :: rest =>
    match letterEscapes.lookup c with
    | some n => some (n.toUInt8, rest)
    | none =>
      if zeroFirst then
        if c = '0' then
          let (n, rest) := octal 0 3 rest
          some (n.toUInt8, rest)
        else none
      else if '0' ≤ c ∧ c ≤ '7' then
        let (n, rest) := octal 0 3 (c :: rest)
        some (n.toUInt8, rest)
      else none
  | [] => none

def unescape (zeroFirst : Bool) : (fuel : Nat) → List Char → Octets
  | fuel + 1, c :: rest =>
    match if c = '\\' then escape? zeroFirst rest else none with
    | some (octet, rest) => octet :: unescape zeroFirst fuel rest
    | none => Text.Utf8.nameOctets [c] ++ unescape zeroFirst fuel rest
  | _, _ => []

/-- A format filled once, and the arguments that are left. -/
def fill : (fuel : Nat) → List Char → List String → Octets × List String
  | fuel + 1, '%' :: c :: rest, args =>
    if c = '%' then
      let (octets, left) := fill fuel rest args
      (octetsOf "%" ++ octets, left)
    else
      let (octets, left) := fill fuel rest args.tail
      let arg := args.headD (if c = 'd' then "0" else "")
      (octetsOf arg ++ octets, left)
  | fuel + 1, c :: rest, args =>
    match if c = '\\' then escape? false rest else none with
    | some (octet, rest) =>
      let (octets, left) := fill fuel rest args
      (octet :: octets, left)
    | none =>
      let (octets, left) := fill fuel rest args
      (Text.Utf8.nameOctets [c] ++ octets, left)
  | _, _, args => ([], args)

def fillAll (format : List Char) : (rounds : Nat) → List String → Octets
  | 0, _ => []
  | rounds + 1, args =>
    let (octets, left) := fill format.length format args
    if left.isEmpty || left.length = args.length then octets
    else octets ++ fillAll format rounds left

/-! ### Programs -/

/-- The arguments in one line. As a part of the shell it replaces escapes. -/
def echo (isBuiltIn : Bool) (args : List String) : ShellM Nat := do
  let bare := args.head? = some "-n"
  let text := " ".intercalate (if bare then args.tail else args)
  let octets := if isBuiltIn then unescape true text.length text.toList else octetsOf text
  print (octets ++ if bare then [] else octetsOf "\n")
  return 0

def printf : List String → ShellM Nat
  | [] => do
    complain "printf: usage: printf format [arg ...]"
    return 2
  | format :: args => do
    print (fillAll format.toList (args.length + 1) args)
    return 0

/-- Prints files one after the other. The input is empty. -/
def cat : List String → ShellM Nat
  | [] => return 0
  | name :: rest => do
    let m ← get
    let worst ←
      match if name = "-" then .ok [] else m.tree.read m.directory (Path.ofString name) with
      | .ok content => do
        print content
        pure 0
      | .error .isDirectory => do
        complain ("cat: " ++ name ++ ": Is a directory")
        pure 1
      | .error _ => do
        complain ("cat: " ++ name ++ ": No such file or directory")
        pure 1
    return max worst (← cat rest)

def thousandths? (s : String) : Option Nat :=
  let (whole, fraction) := (s.toList.takeWhile (· ≠ '.'), (s.toList.dropWhile (· ≠ '.')).drop 1)
  let digits := whole ++ (fraction ++ ['0', '0', '0']).take 3
  if whole.isEmpty || !(whole ++ fraction).all Char.isDigit then none
  else some (digits.foldl (fun n c => 10 * n + (c.toNat - 48)) 0)

def sleep : List String → ShellM Nat
  | [] => return 0
  | time :: rest => do
    match thousandths? time with
    | some n =>
      modify fun m => { m with elapsed := m.elapsed + n }
      sleep rest
    | none =>
      complain ("sleep: invalid time interval '" ++ time ++ "'")
      return 1

def signals : List (String × Nat) :=
  [("HUP", 1), ("INT", 2), ("QUIT", 3), ("ABRT", 6), ("KILL", 9), ("USR1", 10), ("USR2", 12),
    ("ALRM", 14), ("TERM", 15)]

def signal? (s : String) : Option Nat := (signals.lookup s).or s.toNat?

/-- Sends a signal, which ends the child if it is sent to itself. -/
def kill (args : List String) : ShellM Nat :=
  let sent : Option (Nat × List String) :=
    match args with
    | "-s" :: name :: rest => (signal? name).map (·, rest)
    | first :: rest =>
      if first.startsWith "-" then (signal? (String.ofList (first.toList.drop 1))).map (·, rest)
      else some (15, first :: rest)
    | [] => none
  match sent with
  | some (n, numbers) =>
    if numbers.contains ownNumber && n ≠ 0 then throw (.killed n) else return 1
  | none => return 2

/-- The programs that need no shell, by their names. -/
def program? (isBuiltIn : Bool) : String → Option (List String → ShellM Nat)
  | "true" => some fun _ => return 0
  | "false" => some fun _ => return 1
  | "echo" => some (echo isBuiltIn)
  | "printf" => some printf
  | "cat" => some cat
  | "sleep" => some sleep
  | "kill" => some kill
  | "pwd" => some fun _ => do
    print (octetsOf ((FileTree.pathTo (← get).directory).text ++ "\n"))
    return 0
  | _ => none

def plainName (name : String) : String :=
  let behind := ["/bin/", "/usr/bin/"].filterMap fun directory =>
    if directory.toList.isPrefixOf name.toList then
      some (String.ofList (name.toList.drop directory.length))
    else none
  behind.headD name

/-! ### The shell -/

/-- The value of a parameter. What is not set is empty. -/
def Machine.parameter (m : Machine) (name : List Char) : String :=
  match name with
  | ['$'] => ownNumber
  | ['?'] => toString m.status
  | ['#'] => toString (m.parameters.length - 1)
  | [c] => if c.isDigit then m.parameters[c.toNat - 48]?.getD "" else named [c]
  | name => named name
where
  named (name : List Char) : String := (m.assigned.lookup (String.ofList name)).getD ""

def blankFields (s : String) : List (List Char) :=
  (s.toList.splitBy fun a b => isGap a == isGap b).filter fun piece => !piece.any isGap
where
  isGap (c : Char) : Bool := c = ' ' || c = '\t' || c = '\n'

/-- What pieces of a word come to, of which `begun` has been put together. -/
def expandFrom (m : Machine) (begun : Option (List Char)) : Word → List (List Char)
  | [] => begun.toList
  | .text s :: rest => expandFrom m (some (begun.getD [] ++ s)) rest
  | .parameter name true :: rest =>
    expandFrom m (some (begun.getD [] ++ (m.parameter name).toList)) rest
  | .parameter name false :: rest =>
    match blankFields (m.parameter name) with
    | [] => expandFrom m begun rest
    | [only] => expandFrom m (some (begun.getD [] ++ only)) rest
    | first :: more =>
      (begun.getD [] ++ first) :: more.dropLast ++ expandFrom m more.getLast? rest

def expand (m : Machine) (words : List Word) : List String :=
  words.flatMap fun w => (expandFrom m none w).map String.ofList

/-- Where a redirection leads, if it can be set up. A file that is not added to begins anew. -/
def sink? (r : Redirection) : ShellM (Option Sink) := do
  let m ← get
  match r with
  | .same _ toErrors => return some (if toErrors then m.err else m.out)
  | .file _ appends target =>
    let path := Path.ofString ("".intercalate (expand m [target]))
    if path.text = "/dev/null" then return some (.file ["dev", "null"])
    else
      match m.tree.locate m.directory path with
      | .ok place =>
        set (if appends then m else { m with tree := m.tree.put place (.file []) })
        return some (.file place)
      | .error _ => return none

/-- Sets up a redirection, and tells whether that can be done. -/
def redirect (r : Redirection) : ShellM Bool := do
  match ← sink? r with
  | some sink => do
    modify fun m => if r.ofErrors then { m with err := sink } else { m with out := sink }
    return true
  | none => return false

def missing (name : String) : ShellM Nat := do
  let m ← get
  let shell := (m.parameters.head?).getD "sh"
  if name.toList.contains '/' && (m.tree.find m.directory (Path.ofString name)).isOk then
    complain (shell ++ ": 1: " ++ name ++ ": Permission denied")
    return 126
  else
    complain (shell ++ ": 1: " ++ name ++ ": not found")
    return 127

def changeDirectory (args : List String) : ShellM Nat := do
  let m ← get
  match m.tree.find m.directory (Path.ofString (args.headD "/")) with
  | .ok (place, .directory) => do
    set { m with directory := place }
    return 0
  | _ => do
    complain ((m.parameters.headD "sh") ++ ": 1: cd: can't cd to " ++ args.headD "/")
    return 2

/-- Runs something apart: what it sets up is gone behind it, but for what it has printed and the
time it has taken. Its end is a status. -/
def apart (act : ShellM Nat) : ShellM Nat := do
  let before ← get
  let status ← tryCatch act fun e => return e.status
  modify fun m =>
    { before with tree := m.tree, output := m.output, errors := m.errors, elapsed := m.elapsed }
  return status

mutual

/-- Runs a line with parameters. `fuel` bounds how deep lines may call lines. -/
def runLine (fuel : Nat) (line : String) (parameters : List String) : ShellM Nat := do
  modify fun m => { m with parameters, status := 0 }
  match script? line with
  | some script => runScript fuel script
  | none => do
    complain ((parameters.headD "sh") ++ ": 1: Syntax error")
    return 2
termination_by (fuel, 2, 0)

def runScript (fuel : Nat) : Script → ShellM Nat
  | [] => return (← get).status
  | (condition, c) :: rest => do
    if condition.isMet (← get).status then
      let next ← runCommand fuel c
      modify fun m => { m with status := next }
    runScript fuel rest
termination_by script => (fuel, 1, script.length)

def runCommand (fuel : Nat) (c : Command) : ShellM Nat := do
  let before ← get
  let ready ← c.redirections.mapM redirect
  let status ←
    if ready.all id then call fuel (expand before c.words)
    else do
      complain ((before.parameters.headD "sh") ++ ": 1: cannot create file")
      pure 2
  modify fun m => { m with out := before.out, err := before.err }
  return status
termination_by (fuel, 0, 1)

def call (fuel : Nat) : List String → ShellM Nat
  | [] => return 0
  | name :: args =>
    match plainName name, fuel with
    | "exit", _ => do throw (.exit ((args.head?.bind String.toNat?).getD (← get).status % 256))
    | ":", _ => return 0
    | "cd", _ => changeDirectory args
    | "exec", fuel + 1 => do throw (.exit (← call fuel args))
    | "sh", fuel + 1 =>
      match args with
      | "-c" :: line :: parameters =>
        apart (runLine fuel line (if parameters.isEmpty then [name] else parameters))
      | _ => return 0
    | plain, _ =>
      match program? true plain with
      | some program => program args
      | none => missing name
termination_by (fuel, 0, 0)

end

/-- How deep lines may call lines. -/
def deepest : Nat := 1000

def ending (m : Machine) (act : ShellM Nat) : Ending :=
  let (outcome, after) := act.run.run m
  let code : Int :=
    match outcome with
    | .ok status => status
    | .error (.exit code) => code
    | .error (.killed n) => -n
  { code, output := after.output, errors := after.errors, elapsed := some after.elapsed }

/-- Children in a tree of files. -/
def system (tree : FileTree) : System := fun directory l =>
  let m : Machine := { tree, directory, assigned := l.added }
  match l.request with
  | .script line => .ok (ending m (runLine deepest line ["/bin/sh"]))
  | .program name args =>
    match plainName name, args with
    | "sh", "-c" :: line :: parameters =>
      .ok (ending m (runLine deepest line (if parameters.isEmpty then [name] else parameters)))
    | plain, args =>
      match program? false plain with
      | some program => .ok (ending m (program args))
      | none =>
        if name.toList.contains '/' then
          match tree.find directory (Path.ofString name) with
          | .ok _ => .error (.forbidden name)
          | .error fault => .error (.file ⟨fault, name⟩)
        else .error (.file ⟨.notFound, name⟩)

end Formwork.Shell
