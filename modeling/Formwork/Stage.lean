import Formwork.Issue
import Formwork.Value

/-!
The stages of a run, and failures of a stage.
-/

namespace Formwork

inductive Stage | load | validate | generate | execute | write
  deriving DecidableEq, Repr, Inhabited

namespace Stage

/-- Every stage, in the order in which a run passes them. -/
def all : List Stage := [.load, .validate, .generate, .execute, .write]

def number : Stage → Nat
  | .load => 1
  | .validate => 2
  | .generate => 3
  | .execute => 4
  | .write => 5

def name : Stage → String
  | .load => "LOAD"
  | .validate => "VALIDATE"
  | .generate => "GENERATE"
  | .execute => "EXECUTE"
  | .write => "WRITE"

def color : Stage → String
  | .load => "bright_cyan"
  | .validate => "bright_yellow"
  | .generate => "bright_green"
  | .execute => "bright_magenta"
  | .write => "bright_blue"

def ofNumber? (number : Int) : Option Stage := all.find? fun s => (s.number : Int) == number

theorem ofNumber?_number (s : Stage) : ofNumber? s.number = some s := by cases s <;> rfl

def ofValue (v : Value) : Except Value.Misuse (Option Stage) := do
  return (← v.hashable).toInt?.bind ofNumber?

end Stage

structure StageFailure where
  stage : Value
  message : String

namespace StageFailure

/-- The failure of what should be a stage, and its reason. What belongs to no stage has a question
mark for a name. -/
def ofValues (stage reason : Value) : Except Value.Misuse StageFailure := do
  let name := ((← Stage.ofValue stage).map Stage.name).getD "?"
  return ⟨stage, "Stage " ++ stage.display ++ " (" ++ name ++ "): " ++ reason.display⟩

def of (s : Stage) (reason : String) : StageFailure :=
  ⟨.int s.number, "Stage " ++ toString s.number ++ " (" ++ s.name ++ "): " ++ reason⟩

theorem ofValues_number (s : Stage) (reason : String) :
    (ofValues (.int s.number) (.str reason)).toOption = some (of s reason) := by
  cases s <;> rfl

end StageFailure

end Formwork
