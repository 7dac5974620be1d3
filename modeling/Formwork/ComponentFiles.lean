import Formwork.Artifact
import Formwork.FieldMarkup
import Formwork.Layout
import Formwork.Template.Pages

/-!
The three files of a component: the module with the form model, the markup with the form, and the
style sheet of the custom grid.
-/

namespace Formwork.Component

def controlEntry (f : Field) (validators : List String) : Value :=
  .object
    [("name", .str f.name), ("initial", f.initialValue),
      ("validators", .list (validators.map .str))]

def moduleScope (c : Component) (controls : List Value) : Template.Scope :=
  .ofMembers
    [("class_name", .str (Naming.componentClass c.name)),
      ("selector", .str (Naming.componentSelector c.name)),
      ("slug", .str (Naming.pathForm c.name)),
      ("controls", .list controls),
      ("has_option_lists", .bool (c.fields.any fun f => f.kind == .checkboxlist))]

def module (c : Component) : Except Template.Error String := do
  let controls ← (c.fields.mapM fun f =>
    return controlEntry f (← (CompiledField.ofField f).validators)).mapError .oversized
  Template.Pages.classModule.render (c.moduleScope controls)

def buttonEntry (b : ButtonSpec) : Value :=
  .object [("label", .str b.label), ("type", .str b.type), ("css_class", .str b.cssClass)]

def markup (c : Component) (layout : Layout) : Except Template.Error String := do
  let fragments ← c.fields.mapM Field.markup
  let columnClass ← layout.columnClass.mapError .oversized
  Template.Pages.markup.render
    (.ofMembers
      [("fragments", .list (fragments.map .str)),
        ("layout_class", .str layout.formClass),
        ("column_class", .str columnClass),
        ("actions_class", .str layout.actionsClass),
        ("buttons", .list ((layout.buttons c.buttons).map buttonEntry))])

/-- The style sheet, which depends on the layout only. -/
def style (layout : Layout) : Except Template.Error String :=
  Template.Pages.style.render
    (.ofMembers
      [("use_bootstrap", .bool layout.useBootstrap), ("column_layout", .int layout.columns)])

/-- Where the components of an application are. -/
def standardDirectory : String := "src/app"

def filePath (base name : String) : String :=
  let slug := Naming.pathForm name
  base ++ "/" ++ slug ++ "/" ++ slug ++ ".component"

def files (c : Component) (layout : Layout) (base : String) :
    Except Template.Error (List Artifact) := do
  let path := filePath base c.name
  return [⟨path ++ ".ts", ← c.module⟩, ⟨path ++ ".html", ← c.markup layout⟩,
    ⟨path ++ ".css", ← style layout⟩]

end Formwork.Component
