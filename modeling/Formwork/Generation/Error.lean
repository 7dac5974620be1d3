import Formwork.Artifact
import Formwork.Issue
import Formwork.Schema.Reading
import Formwork.Template.Basic

/-!
Why a project cannot be generated: the specification does not allow it, a command cannot be put
together, a template is lacking a value, or the states of a generation are passed out of order.
-/

namespace Formwork

structure TransitionError where
  current : GenerationState
  target : GenerationState
  deriving DecidableEq, Repr

def TransitionError.message (e : TransitionError) : String :=
  "invalid generation transition " ++ e.current.name ++ " -> " ++ e.target.name

inductive GenerationError
  | specification (e : SpecificationError)
  | invocation (faults : List Schema.Fault)
  | template (e : Template.Error)
  | transition (e : TransitionError)
  deriving DecidableEq, Repr

def GenerationError.message : GenerationError → String
  | .specification e => e.message
  | .invocation faults => Schema.faultsText faults
  | .template e => e.message
  | .transition e => e.message

end Formwork
