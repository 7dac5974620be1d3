import Formwork.Console.Table

/-!
What is printed on a console: texts, rules, panels and tables, each made of markup and set in lines
of the console's width. Markup that is not well formed prints nothing.
-/

namespace Formwork.Console

/-- A thing to print. A question is a text after which the line goes on. -/
inductive Item
  | blank
  | text (markup : String)
  | question (words : String)
  | rule (markup : String)
  | panel (markup : String)
  | table (t : Table)

namespace Item

/-- The cells that a rule keeps beside its title. -/
def ruleMargin : Nat := 4

def ruleAround (limit : Nat) (title : Styled) : Styled :=
  let flat : Styled := title.map fun g => if g.char = '\n' then { g with char := ' ' } else g
  let title := flat.expandTabs.shorten .ellipsis (limit - ruleMargin)
  let taken := width title.plain
  let side := (limit - taken) / 2
  let left := List.replicate (side - 1) '─'
  let right := List.replicate (min (side + 1) (limit - left.length - taken)) '─'
  let whole := Styled.ofChars true (left ++ [' ']) ++ title.opened ++
    (Styled.ofChars true (' ' :: right)).opened
  whole.replaceChars (fit limit whole.plain)

def ruleLines (limit : Nat) (markup : String) : Except RenderError (List Line) := do
  let title ← Markup.render markup
  if limit ≤ ruleMargin then return [[List.replicate limit '─']]
  return ((ruleAround limit (← title.resolve)).wrap .fold limit).map Styled.runs

/-- The cells that the sides of a panel take, with a blank beside each. -/
def panelMargin : Nat := 4

def textLines (limit : Nat) (markup : String) : Except RenderError (List Line) := do
  return ((← (← Markup.render markup).resolve).wrap .fold limit).map Styled.runs

/-- A text in a box. Where there is no room for the text, it is not even read. -/
def panelLines (limit : Nat) (markup : String) : Except RenderError (List Line) := do
  let inner := limit - panelMargin
  let content ← if inner = 0 then pure [] else textLines inner markup
  let edge := List.replicate (limit - 2) '─'
  return ['╭' :: edge ++ ['╮']] ::
    content.map (fun line => ['│', ' '] :: Line.fill inner line ++ [[' ', '│']]) ++
    [['╰' :: edge ++ ['╯']]]

/-- The lines of a thing on a console of a given width, which may still be too long. On a console
without any width nothing is shown, and only the tags of a text are looked at. -/
def rawLines (limit : Nat) (i : Item) : Except RenderError (List Line) :=
  if limit = 0 then
    match i with
    | .text markup => (Markup.render markup).map fun _ => []
    | _ => .ok []
  else
    match i with
    | .blank => .ok [[]]
    | .text markup => textLines limit markup
    | .question words =>
      .ok (((Styled.ofChars false words.toList).wrap .fold limit).map Styled.runs)
    | .rule markup => ruleLines limit markup
    | .panel markup => panelLines limit markup
    | .table t => t.lines limit

def lines (limit : Nat) (i : Item) : Except RenderError (List Line) := do
  return (← i.rawLines limit).map (Line.crop limit)

/-- What a thing puts on a console of a given width. Every line is ended, but the last one of a
question goes on. -/
def output (limit : Nat) (i : Item) : Except RenderError String := do
  let lines := (← i.lines limit).map Line.text
  match i with
  | .question _ => return "\n".intercalate lines
  | _ => return String.join (lines.map (· ++ "\n"))

end Item

end Formwork.Console
