import Formwork.Number.Limit

/-!
Style options of a generated application and the classes that follow from them.
-/

namespace Formwork

/-- Style options. Column counts other than 2, 3 and 4 are accepted. -/
structure Layout where
  useBootstrap : Bool := false
  columns : Int := 2
  deriving DecidableEq, Repr, Inhabited

structure ButtonSpec where
  label : String
  type : String
  cssClass : String
  deriving DecidableEq, Repr, Inhabited

namespace Layout

/-- The number of columns of the Bootstrap grid. -/
def gridColumns : Int := 12

/-- The text of the class around each field. On the Bootstrap grid the width is the grid divided by
the number of columns, and a number that is not positive leaves the width open. -/
def columnText (l : Layout) : String :=
  if l.useBootstrap then
    if l.columns ≤ 0 then "col-md" else "col-md-" ++ toString (gridColumns / l.columns)
  else "custom-col-" ++ toString l.columns

/-- Whether the class around each field can be written. Only the custom grid has the number of
columns in it. -/
def isWritable (l : Layout) : Bool := l.useBootstrap || Number.isShort l.columns

def columnClass (l : Layout) : Except Number.Oversized String :=
  if l.isWritable then .ok l.columnText else .error {}

def formClass (l : Layout) : String := if l.useBootstrap then "row" else "custom-layout"

def actionsClass (l : Layout) : String :=
  if l.useBootstrap then "col-12 mt-3" else "custom-actions"

def buttonClass (l : Layout) (isFirst : Bool) : String :=
  if l.useBootstrap then
    if isFirst then "btn btn-primary" else "btn btn-secondary ms-2"
  else "custom-button"

def button (l : Layout) (isFirst : Bool) (label : String) : ButtonSpec :=
  ⟨label, if isFirst then "submit" else "button", l.buttonClass isFirst⟩

/-- The buttons of a form. A form without labels has a single one. -/
def buttons (l : Layout) (labels : List String) : List ButtonSpec :=
  match labels with
  | [] => [l.button true "Submit"]
  | first :: rest => l.button true first :: rest.map (l.button false)

end Layout

end Formwork
