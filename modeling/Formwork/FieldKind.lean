import Formwork.Text.Blank
import Formwork.Text.Case

/-!
The form controls that a field can be shown as. A declared kind is read without regard to case
and surrounding blanks, and one that is not known is shown as a text box.
-/

namespace Formwork

inductive FieldKind
  | textbox
  | textarea
  | dropdown
  | checkbox
  | checkboxlist
  | radiobutton
  | radiobuttonlist
  deriving DecidableEq, Repr, Inhabited

namespace FieldKind

def all : List FieldKind :=
  [.textbox, .textarea, .dropdown, .checkbox, .checkboxlist, .radiobutton, .radiobuttonlist]

theorem mem_all (k : FieldKind) : k ∈ all := by cases k <;> decide

def name : FieldKind → String
  | .textbox => "textbox"
  | .textarea => "textarea"
  | .dropdown => "dropdown"
  | .checkbox => "checkbox"
  | .checkboxlist => "checkboxlist"
  | .radiobutton => "radiobutton"
  | .radiobuttonlist => "radiobuttonlist"

def declared? (declared : String) : Option FieldKind :=
  let word := Text.lower (Text.strip declared)
  all.find? fun kind => kind.name == word

def resolve (declared : String) : FieldKind := (declared? declared).getD .textbox

def isKnown (declared : String) : Bool := (declared? declared).isSome

def takesOptions : FieldKind → Bool
  | .dropdown | .checkboxlist | .radiobuttonlist => true
  | _ => false

end FieldKind

end Formwork
