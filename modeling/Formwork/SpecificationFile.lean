import Formwork.FileTree.Basic
import Formwork.Issue
import Formwork.Json.Decode
import Formwork.Schema.Specification
import Formwork.Text.Lines
import Formwork.Yaml.Decode

/-!
Specifications in files. The ending of the name tells the format, and the top level of a document
has to be a mapping.
-/

namespace Formwork

inductive LoadError
  | missing (path : String)
  | file (e : FileError)
  | encoding (e : Text.Utf8.Failure)
  | json (text : List Char) (e : Json.Error)
  | yaml (account : String) (e : Yaml.Error)
  | specification (e : SpecificationError)

def LoadError.message : LoadError → String
  | .missing path => "Specification file not found: " ++ path
  | .file e => e.message
  | .encoding e => e.message
  | .json text e => e.message text
  | .yaml account e => e.message account
  | .specification e => e.message

def Specification.ofDocument (d : Document) : Except SpecificationError Specification :=
  (Schema.readSpecification d).toExcept.mapError fun faults =>
    .because ("invalid specification: " ++ Schema.faultsText faults)

namespace SpecificationFile

inductive Format | json | yaml
  deriving DecidableEq, Repr, Inhabited

def formats : List (String × Format) := [(".json", .json), (".yaml", .yaml), (".yml", .yaml)]

/-- The key under which a top level that is no mapping is found. -/
def rootKey : String := "_root"

/-- The text of a file, in which every line ends with a line feed. -/
def readText (t : FileTree) (current : Place) (path : Path) : Except LoadError (List Char) := do
  let octets ← (t.read current path).mapError fun fault => .file ⟨fault, path.text⟩
  let text ← (Text.Utf8.decode octets).mapError .encoding
  return Text.unifyNewlines text

/-- The words in which a YAML parser tells what is wrong with the form of a text. -/
abbrev Account := List Char → String

/-- The document of a text. A text without one counts as an empty mapping. -/
def decode (account : Account) (format : Format) (text : List Char) : Except LoadError Document :=
  match format with
  | .json => (Json.decode text).mapError (.json text)
  | .yaml =>
    match Yaml.decode text with
    | .ok (some .null) | .ok none => .ok (.map [])
    | .ok (some d) => .ok d
    | .error e => .error (.yaml (account text) e)

def topLevel : Document → List (Document × Document)
  | .map entries => entries
  | d => [(.text rootKey, d)]

def loadEntries (account : Account) (format : Format) (t : FileTree) (current : Place)
    (path : Path) : Except LoadError (List (Document × Document)) := do
  return topLevel (← decode account format (← readText t current path))

def refuse {α : Type} (message : String) : Except LoadError α :=
  .error (.specification (.because message))

/-- Faults of form are refusals that name the file; other errors stay. -/
def explain (path : Path) : LoadError → LoadError
  | .json text (.syntactic problem position) =>
    .specification (.because ("could not parse " ++ path.name ++ ": " ++
      (Json.Error.syntactic problem position).message text))
  | .yaml account .malformed =>
    .specification (.because ("could not parse " ++ path.name ++ ": " ++ account))
  | e => e

def exists? (t : FileTree) (current : Place) (path : Path) : Except LoadError Bool :=
  match t.find current path with
  | .ok _ => .ok true
  | .error .nameTooLong => .error (.file ⟨.nameTooLong, path.text⟩)
  | .error _ => .ok false

/-- The specification in a file. -/
def load (account : Account) (t : FileTree) (current : Place) (path : Path) :
    Except LoadError Specification := do
  if !(← exists? t current path) then .error (.missing path.text)
  match formats.lookup (Text.lower path.suffix) with
  | none =>
    refuse ("unsupported specification format '" ++ path.suffix ++ "' (expected one of " ++
      ", ".intercalate (formats.map (·.1)) ++ ")")
  | some format =>
    let entries ← (loadEntries account format t current path).mapError (explain path)
    if (Document.member? entries rootKey).isSome then
      refuse (path.name ++ " must contain a mapping at the top level")
    else (Specification.ofDocument (.map entries)).mapError .specification

end SpecificationFile

end Formwork
