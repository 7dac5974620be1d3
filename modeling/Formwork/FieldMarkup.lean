import Formwork.Directive
import Formwork.Template.Fields

/-!
Markup of a single field. How each control is rendered is one table: its template, whether it
holds several values, its empty value, and the errors it shows.
-/

namespace Formwork

structure FieldControl where
  template : Template
  multiValue : Bool := false
  showsRequired : Bool := false
  showsPattern : Bool := false
  emptyValue : Value := .null
  holdsList : Bool := false

def FieldKind.control : FieldKind → FieldControl
  | .textbox => { template := Template.Fields.textbox, showsRequired := true, showsPattern := true }
  | .textarea => { template := Template.Fields.textarea, showsRequired := true }
  | .dropdown => { template := Template.Fields.dropdown, showsRequired := true }
  | .checkbox => { template := Template.Fields.checkbox, emptyValue := .bool false }
  | .checkboxlist =>
    { template := Template.Fields.checkboxlist, multiValue := true, emptyValue := .list [],
      holdsList := true }
  | .radiobutton => { template := Template.Fields.radiobutton }
  | .radiobuttonlist =>
    { template := Template.Fields.radiobuttonlist, multiValue := true, showsRequired := true }

namespace Field

def control (f : Field) : FieldControl := f.kind.control

/-- The value that a control starts with. A control that holds a list makes a list of a single
default. -/
def initialValue (f : Field) : Value :=
  match f.validations.bind (·.defaultValue) with
  | none => f.control.emptyValue
  | some (.texts items) => (DefaultValue.texts items).toValue
  | some standard => if f.control.holdsList then .list [standard.toValue] else standard.toValue

/-- What the template of a control looks at. -/
def markupScope (f : Field) (compiled : CompiledField) : Template.Scope :=
  .ofMembers
    [("name", .str f.name),
      ("label", .str (Naming.labelForm f.name)),
      ("marker", .str (if compiled.isRequired then " *" else "")),
      ("options", .list (f.options.map .str)),
      ("compiled",
        .object
          [("required_message", .str compiled.requiredMessage),
            ("pattern_message", .str compiled.patternMessage)]),
      ("show_required_error", .bool (f.control.showsRequired && compiled.isRequired)),
      ("show_pattern_error", .bool (f.control.showsPattern && compiled.pattern?.isSome))]

/-- The markup of a field with the given constraints, without a line feed at its end. -/
def markupWith (f : Field) (compiled : CompiledField) : Except Template.Error String := do
  let body ← f.control.template.render (f.markupScope compiled)
  let text ← Template.Fields.container.render
    (.ofMembers [("body", .str (Text.dropFinalNewlines body))])
  return Text.dropFinalNewlines text

def markup (f : Field) : Except Template.Error String := f.markupWith (.ofField f)

end Field

end Formwork
