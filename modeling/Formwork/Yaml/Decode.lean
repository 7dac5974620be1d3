import Formwork.Yaml.Data
import Formwork.Yaml.Node
import Formwork.Yaml.Tokenize

/-!
YAML read into a document: tokens, nodes, and the data that the nodes stand for.
-/

namespace Formwork.Yaml

def decode (cs : List Char) : Except Error (Option Document) := do
  match ← Graph.ofTokens? (tokenize cs) with
  | some (root, graph) => return some (← graph.data root)
  | none => return none

def DatePart.message : DatePart → Nat → String
  | .year, n => "year " ++ toString n ++ " is out of range"
  | .month, _ => "month must be in 1..12"
  | .day, _ => "day is out of range for month"
  | .hour, _ => "hour must be in 0..23"
  | .minute, _ => "minute must be in 0..59"
  | .second, _ => "second must be in 0..59"

def durationText (minutes : Int) : String :=
  let days := minutes.fdiv minutesOfDay
  let seconds := 60 * minutes.fmod minutesOfDay
  let parts := [("days", days), ("seconds", seconds)].filter (·.2 ≠ 0)
  "datetime.timedelta(" ++
    ", ".intercalate (parts.map fun part => part.1 ++ "=" ++ toString part.2) ++ ")"

/-- The text of an error. What is wrong with the form of a text is told by an account of it. -/
def Error.message (account : String) : Error → String
  | .malformed => account
  | .badInteger fault => fault.message
  | .badFloat text => "could not convert string to float: " ++ Text.quoted (String.ofList text)
  | .hugeUnit => "int too large to convert to float"
  | .badBoolean text => Text.quoted text
  | .badDate part value => part.message value
  | .badOffset minutes =>
    let day := "timedelta(hours=24)"
    "offset must be a timedelta strictly between -" ++ day ++ " and " ++ day ++ ", not " ++
      durationText minutes ++ "."
  | .emptyNumber => "string index out of range"
  | .noDate => "'NoneType' object has no attribute 'groupdict'"
  | .noText => "expected string or bytes-like object, got 'list'"
  | .badCharacter => "chr() arg not in range(0x110000)"
  | .hugeCharacter => "Python int too large to convert to C int"
  | .endless => "maximum recursion depth exceeded"

end Formwork.Yaml
