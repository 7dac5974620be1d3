import Formwork.Layout
import Formwork.Routing
import Formwork.Text.Blank

/-!
The frame around the pages: menu, place of the page, and footer.
-/

namespace Formwork.AppShell

def menuClass (orientation : Orientation) (useBootstrap : Bool) : String :=
  match orientation, useBootstrap with
  | .vertical, true => "nav flex-column"
  | .horizontal, true => "nav nav-pills"
  | .vertical, false => "custom-vertical-menu"
  | .horizontal, false => "custom-horizontal-menu"

structure Link where
  label : String
  path : String
  deriving DecidableEq, Repr, Inhabited

def links (components : List Component) : List Link :=
  components.map fun c => ⟨c.menuLabel, Naming.pathForm c.name⟩

def linkEntry (l : Link) : Value := .object [("label", .str l.label), ("path", .str l.path)]

def menu (components : List Component) (orientation : Orientation) (layout : Layout) :
    Except GenerationError String :=
  if components.isEmpty then
    .error (.specification (.because "navigation needs at least one component"))
  else do
    let text ← (Template.App.navigation.render
      (.ofMembers
        [("menu_class", .str (menuClass orientation layout.useBootstrap)),
          ("link_class", .str (if layout.useBootstrap then "nav-link" else "custom-menu-link")),
          ("links", .list ((links components).map linkEntry))])).mapError .template
    return Text.dropFinalNewlines text

/-- The footer, or nothing where there is no text for it. -/
def footer (content : Option String) (layout : Layout) : Except GenerationError String :=
  match content with
  | none => .ok ""
  | some content =>
    if content = "" then .ok ""
    else do
      let text ← (Template.App.footer.render (.ofMembers
        [("footer_content", .str content),
          ("footer_class",
            .str (if layout.useBootstrap then "mt-4 text-center" else "custom-footer"))])).mapError
        .template
      return Text.dropFinalNewlines text

def markup (components : List Component) (orientation : Orientation) (content : Option String)
    (layout : Layout) : Except GenerationError String := do
  let menu ← menu components orientation layout
  let footer ← footer content layout
  (Template.App.shell.render
    (.ofMembers
      [("nav", .str menu), ("footer", .str footer),
        ("content_class",
          .str (if layout.useBootstrap then "container mt-3" else "custom-content"))])).mapError
    .template

def style (orientation : Orientation) (layout : Layout) : Except GenerationError String :=
  (Template.App.shellStyle.render
    (.ofMembers
      [("use_bootstrap", .bool layout.useBootstrap),
        ("menu_type", .str orientation.name)])).mapError .template

end Formwork.AppShell
