import Formwork.Settings.Environment
import Formwork.Text.Blank

/-!
Questions about the style of a project. An empty answer takes what is set already; an answer that
cannot be used is complained about, and the question is asked again.
-/

namespace Formwork

/-- A question: its words, the answer that an empty line gives, and how a line is read. A line
that cannot be used gives a complaint. -/
structure Question (α : Type) where
  words : String
  standard : α
  read : String → Except String α

namespace Question

def wordsWith (question : String) (choices : List String) (standard : String) : String :=
  question ++ " [" ++ "/".intercalate choices ++ "] (" ++ standard ++ "): "

def yesNo : List (String × Bool) := [("y", true), ("n", false)]

def bootstrap (standard : Bool) : Question Bool where
  words := wordsWith "Do you want to use Bootstrap for styling?" (yesNo.map (·.1))
    (if standard then "y" else "n")
  standard
  read line :=
    match yesNo.lookup (Text.lower (Text.strip line)) with
    | some answer => .ok answer
    | none => .error "Please enter Y or N"

/-- The column counts on offer. -/
def columnAnswers : List String := ["2", "3", "4"]

def columns (standard : Int) : Question Int where
  words := wordsWith "Choose a column layout" columnAnswers (toString standard)
  standard
  read line :=
    let answer := Text.strip line
    match Environment.integer answer with
    | .error _ => .error "Please enter a valid integer number"
    | .ok n =>
      if columnAnswers.contains answer then .ok n
      else .error "Please select one of the available options"

def answer {α : Type} (q : Question α) (line : String) : Except String α :=
  if line = "" then .ok q.standard else q.read line

end Question

end Formwork
