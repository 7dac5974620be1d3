import Formwork.Command
import Formwork.FileTree.Basic
import Formwork.Text.Blank

/-!
Commands as child processes. What the operating system makes of a child is a parameter: here is
what it is started with, when it is given up, and what is reported of it.
-/

namespace Formwork.Subprocess

open Text (Octets)

/-- What is run: a line for the shell, or a program with its arguments. -/
inductive Request
  | script (text : String)
  | program (name : String) (args : List String)
  deriving DecidableEq, Repr

def Request.text : Request → String
  | .script text => text
  | .program name args => " ".intercalate (name :: args)

def Request.words : Request → List String
  | .script text => ["/bin/sh", "-c", text]
  | .program name args => name :: args

/-- What a child is started with: its directory, which is the current one if it is empty, and the
variables that are added to its environment. -/
structure Launch where
  request : Request
  directory : String := ""
  added : List (String × String) := []
  deriving DecidableEq, Repr

/-- How a child ends: its exit code, which is the number of a signal, negated, where a signal ends
it, what it has written, and the time it has taken in thousandths of a second. One that does not
end has no time. -/
structure Ending where
  code : Int := 0
  output : Octets := []
  errors : Octets := []
  elapsed : Option Nat := some 0
  deriving DecidableEq, Repr

/-- Why a child cannot be started, or is not waited for: there is no program, or it must not be run,
or the directory cannot be entered; a text has no octets, or holds the one that ends texts; a
variable has no proper name; or the limit is no number, is too great for a clock, or has too many
digits to be told. -/
inductive Fault
  | file (e : FileError)
  | forbidden (path : String)
  | encoding (e : Text.Utf8.EncodeFailure)
  | nulInText
  | variableName
  | limit (m : Value.Misuse)
  | hugeLimit
  | oversized (e : Number.Oversized)

def Fault.message : Fault → String
  | .file e => e.message
  | .forbidden path => "[Errno 13] Permission denied: " ++ Text.quoted path
  | .encoding e => e.message
  | .nulInText => "embedded null byte"
  | .variableName => "illegal environment variable name"
  | .limit m => m.message
  | .hugeLimit => "int too large to convert to float"
  | .oversized e => e.message

/-- What starts children in a directory and tells how they end. -/
abbrev System := Place → Launch → Except Fault Ending

/-! ### Starting -/

def checkText (s : String) : Except Fault Unit :=
  match Text.Utf8.firstUnnamed? s.toList with
  | some failure => .error (.encoding failure)
  | none => .ok ()

def checkVariable (v : String × String) : Except Fault Unit := do
  checkText v.1
  if v.1.toList.contains '=' then throw .variableName
  checkText v.2

def checkEnds (texts : List String) : Except Fault Unit :=
  if texts.any fun s => s.toList.contains '\x00' then .error .nulInText else .ok ()

def enter (t : FileTree) (current : Place) (directory : String) : Except Fault Place :=
  if directory = "" then .ok current
  else
    match t.find current (Path.ofString directory) with
    | .ok (place, .directory) => .ok place
    | .ok (_, .file _) => .error (.file ⟨.notDirectory, directory⟩)
    | .error fault => .error (.file ⟨fault, directory⟩)

def launch (system : System) (t : FileTree) (current : Place) (l : Launch) :
    Except Fault Ending := do
  let _ ← l.added.mapM checkVariable
  let _ ← l.request.words.mapM checkText
  checkEnds l.request.words
  checkEnds (l.added.flatMap fun v => [v.1, v.2])
  system (← enter t current l.directory) l

/-! ### Waiting -/

/-- Whether a time in thousandths of a second is over a limit in seconds. A limit that is not
positive leaves no time at all. -/
def isOver (elapsed : Option Nat) (seconds : Int) (parts : Nat) : Bool :=
  seconds ≤ 0 || elapsed.all fun time => 1000 * seconds ≤ time * parts

/-- Whether a time in seconds is too great for a clock, which counts in double precision. -/
def isHuge (seconds : Int) : Bool :=
  0 < seconds && Binary64.ofInt seconds matches .infinite _

/-- Whether a child has taken longer than a limit, which has to be a number or nothing. -/
def exceeds (elapsed : Option Nat) (limit : Value) : Except Fault Bool :=
  match limit with
  | .null => .ok false
  | .bool b => .ok (isOver elapsed (if b then 1 else 0) 1)
  | .int n => if isHuge n then .error .hugeLimit else .ok (isOver elapsed n 1)
  | .float x =>
    match x.fraction? with
    | some f => .ok (isOver elapsed f.signedNum f.den)
    | none => .ok (x.isNegative || x = .nan)
  | v => .error (.limit (.noOrder "<=" v))

/-- What is reported of a child that has taken too long, if the limit can be told. -/
def timedOut (limit : Value) (r : Request) : Except Fault Reply := do
  let limit ← limit.write.mapError .oversized
  return ⟨-1, "", "Command timed out after " ++ limit ++ "s: " ++ r.text⟩

/-- A stream as text: what is no text is replaced, and blanks at the ends are dropped. -/
def streamText (octets : Octets) : String :=
  Text.strip (String.ofList (Text.Utf8.decodeLenient octets))

/-- What is reported of a child that has ended in time. What is not captured is not seen. -/
def Ending.reply (e : Ending) (captured : Bool) : Reply :=
  if captured then ⟨e.code, streamText e.output, streamText e.errors⟩ else { code := e.code }

def run (system : System) (t : FileTree) (current : Place) (l : Launch) (limit : Value)
    (captured : Bool) : Except Fault Reply := do
  let ending ← launch system t current l
  if ← exceeds ending.elapsed limit then timedOut limit l.request
  else return ending.reply captured

end Formwork.Subprocess
