import Formwork.FileTree.Path
import Formwork.Text.Lines
import Formwork.Value

/-!
External commands: how one is called, and what it answers.
-/

namespace Formwork

/-- A command that is called in a directory. The timeout is what the settings hold for it. -/
structure Call where
  argv : List String
  directory : Path
  timeout : Value
  deriving Inhabited

/-- What a command answers: its exit code, its output and its error output. A command that a
signal ends has the number of the signal, negated, for an exit code. -/
structure Reply where
  code : Int := 0
  output : String := ""
  errors : String := ""
  deriving DecidableEq, Repr, Inhabited

/-- Why a command failed: the last line of its error output, or else its exit code. -/
def Reply.detail (r : Reply) : String :=
  match Text.lastLine? r.errors with
  | some line => line
  | none => "exit code " ++ toString r.code

end Formwork
