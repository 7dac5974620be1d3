/-!
Problems of a specification, and the lists of them that stop a run.
-/

namespace Formwork

/-- How a problem affects a run: a fatal one always stops it, an error stops a strict run, and a
warning never does. -/
inductive Severity | fatal | error | warning
  deriving DecidableEq, Repr, Inhabited

namespace Severity

def name : Severity → String
  | .fatal => "fatal"
  | .error => "error"
  | .warning => "warning"

def ofName? (word : String) : Option Severity :=
  [Severity.fatal, .error, .warning].find? fun s => s.name == word

def stops (strict : Bool) : Severity → Bool
  | .fatal => true
  | .error => strict
  | .warning => false

end Severity

structure Issue where
  code : String
  message : String
  location : String := ""
  severity : Severity := .error
  deriving DecidableEq, Repr, Inhabited

def Issue.text (i : Issue) : String :=
  "[" ++ i.code ++ "] " ++ (if i.location = "" then "" else i.location ++ ": ") ++ i.message

/-- A specification that cannot be turned into a project: its problems. -/
structure SpecificationError where
  issues : List Issue
  deriving DecidableEq, Repr, Inhabited

namespace SpecificationError

def because (message : String) : SpecificationError :=
  ⟨[⟨"invalid", message, "", .fatal⟩]⟩

def message (e : SpecificationError) : String := "; ".intercalate (e.issues.map Issue.text)

end SpecificationError

end Formwork
