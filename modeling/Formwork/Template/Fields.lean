import Formwork.Template.Basic

/-!
Templates of the form controls. Each of them ends with the blocks for the errors of its field;
which blocks are shown is decided by the scope.
-/

namespace Formwork.Template.Fields

def errorBlock (error message : String) : List Piece :=
  [.text "<div *ngIf=\"form.get(", literalSlot "name", .text (")?.hasError('" ++ error ++
      "') && form.get("), literalSlot "name", .text ")?.touched\" class=\"text-danger\">",
    slotOf "compiled" message, line "</div>"]

def errors : List Piece :=
  [.whenTrue (.named "show_required_error") (errorBlock "required" "required_message"),
    .whenTrue (.named "show_pattern_error") (errorBlock "pattern" "pattern_message")]

/-- The text beside a control. -/
def caption : List Piece := [slot "label", slot "marker"]

def tiedLabel : List Piece :=
  [.text "<label for=\"", slot "name", .text "\">"] ++ caption ++ [line "</label>"]

/-- A caption for a group of choices. -/
def groupLabel : List Piece := [.text "<label>"] ++ caption ++ [line "</label>"]

def textbox : Template where
  name := "fields/textbox.html.j2"
  pieces :=
    tiedLabel ++
    [.text "<input type=\"text\" id=\"", slot "name", .text "\" formControlName=\"", slot "name",
      line "\" class=\"form-control\" />"] ++
    errors

def textarea : Template where
  name := "fields/textarea.html.j2"
  pieces :=
    tiedLabel ++
    [.text "<textarea id=\"", slot "name", .text "\" formControlName=\"", slot "name",
      line "\" class=\"form-control\"></textarea>"] ++
    errors

def dropdownChoice : List Piece :=
  [.text "  <option value=\"", slot "option", .text "\">", slot "option", line "</option>"]

def dropdown : Template where
  name := "fields/dropdown.html.j2"
  pieces :=
    tiedLabel ++
    [.text "<select id=\"", slot "name", .text "\" formControlName=\"", slot "name",
      line "\" class=\"form-control\">", line "  <option value=\"\">-- Select --</option>",
      .each "option" (.named "options") dropdownChoice, line "</select>"] ++
    errors

def checkbox : Template where
  name := "fields/checkbox.html.j2"
  pieces :=
    [line "<label>", .text "  <input type=\"checkbox\" id=\"", slot "name",
      .text "\" formControlName=\"", slot "name", .text "\" /> "] ++ caption ++
    [line "", line "</label>"] ++
    errors

def checkboxChoice : List Piece :=
  [.text "  <label><input type=\"checkbox\" name=\"", slot "name", .text "\" value=\"",
    slot "option", .text "\" [checked]=\"form.get(", literalSlot "name",
    .text ")?.value?.includes(", literalSlot "option", .text ")\" (change)=\"toggleOption(",
    literalSlot "name", .text ", ", literalSlot "option", .text ", $event)\" /> ", slot "option",
    line "</label>"]

def checkboxlist : Template where
  name := "fields/checkboxlist.html.j2"
  pieces :=
    groupLabel ++
    [line "<div>", .each "option" (.named "options") checkboxChoice, line "</div>"] ++
    errors

def radiobutton : Template where
  name := "fields/radiobutton.html.j2"
  pieces :=
    [line "<label>", .text "  <input type=\"radio\" id=\"", slot "name", .text "\" name=\"",
      slot "name", .text "\" formControlName=\"", slot "name", .text "\" [value]=\"true\" /> "] ++
    caption ++
    [line "", line "</label>"] ++
    errors

def radioChoice : List Piece :=
  [.text "  <label><input type=\"radio\" name=\"", slot "name", .text "\" formControlName=\"",
    slot "name", .text "\" value=\"", slot "option", .text "\" /> ", slot "option",
    line "</label>"]

def radiobuttonlist : Template where
  name := "fields/radiobuttonlist.html.j2"
  pieces :=
    groupLabel ++
    [line "<div>", .each "option" (.named "options") radioChoice, line "</div>"] ++
    errors

def container : Template where
  name := "fields/container.html.j2"
  pieces :=
    [line "<div class=\"form-group\">", .text "  ", .value (.filtered (.named "body") (.indent 2)),
      line "", line "</div>"]

end Formwork.Template.Fields
