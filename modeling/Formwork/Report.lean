import Formwork.Console.Item
import Formwork.Stage
import Formwork.Text.Case

/-!
What a run tells on the console, as markup: headings of stages, good and bad news, and a summary.
-/

namespace Formwork.Report

open Console

/-- The colour of a heading that belongs to no stage. -/
def plainColor : String := "white"

def headingIn (color label name : String) : List Item :=
  [.blank,
    .rule ("[bold " ++ color ++ "] Stage " ++ label ++ ": " ++ Text.upper name ++
      " [/bold " ++ color ++ "]")]

def stage (s : Stage) : List Item := headingIn s.color (toString s.number) s.name

def heading (stage name : Value) : Except Value.Misuse (List Item) := do
  let color := ((← Stage.ofValue stage).map Stage.color).getD plainColor
  return headingIn color stage.display (← name.asText "upper")

def colored (color message : String) : Item :=
  .text ("[bold " ++ color ++ "]" ++ message ++ "[/bold " ++ color ++ "]")

def success (message : String) : Item := colored "green" message

def error (message : String) : Item := colored "red" message

def warning (message : String) : Item := colored "yellow" message

/-- The title of a summary that has no other. -/
def summaryTitle : String := "Summary"

def summary (rows : List (String × String)) (title : String) : List Item :=
  [.table ⟨.str title, rows⟩, .blank]

def summaryOf (rows title : Value) : Except Value.Misuse (List Item) := do
  let members ← rows.asObject "items"
  return [.table ⟨title, members.map fun m => (m.1, m.2.display)⟩, .blank]

end Formwork.Report
