import Formwork.FileTree.Basic
import Formwork.Template.App
import Formwork.Template.Fields
import Formwork.Template.Pages
import Formwork.Template.Parse

/-!
Templates by name. A name is a path below the directory of the templates; one that leads out of
that directory names nothing.
-/

namespace Formwork.Template

def Fields.errorsAlone : Template where
  name := "fields/_errors.html.j2"
  pieces := Fields.errors

def standard : List Template :=
  [App.routingModule, App.shellStyle, App.shell, App.appModule, App.footer, App.navigation,
    App.globalStyle, Pages.style, Pages.markup, Pages.classModule, Fields.errorsAlone,
    Fields.checkbox, Fields.checkboxlist, Fields.container, Fields.dropdown, Fields.radiobutton,
    Fields.radiobuttonlist, Fields.textarea, Fields.textbox, App.rootComponent, App.indexPage,
    App.mainModule]

/-- The names on the way to a template. Empty names and single dots are skipped. -/
def namePath? (name : String) : Option (List String) :=
  let pieces := (Path.splitSlashes name.toList).map String.ofList
  if pieces.contains ".." then none
  else some (pieces.filter fun piece => piece ≠ "" ∧ piece ≠ ".")

def named (library : List Template) (name : String) : Except Error Template :=
  match namePath? name with
  | none => .error (.unknownTemplate name)
  | some path =>
    match library.find? fun t => namePath? t.name == some path with
    | some t => .ok t
    | none => .error (.unknownTemplate name)

def renderNamed (library : List Template) (name : String) (s : Scope) : Except Error String := do
  (← named library name).render s

/-- The directory that holds the standard templates. -/
def standardRoot : Place := ["templates"]

def standardTree : FileTree :=
  standard.foldl
    (fun tree t => tree.withFile (standardRoot ++ (Path.ofString t.name).parts) []) {}

def notAfter (a b : String) : Bool := !(b < a)

/-- The paths of all templates below a directory of a tree, relative to the root of the templates
and in order. Only names that end in `.j2` are templates. -/
def listBelow (tree : FileTree) (root : Place) (within : Path) : List String :=
  match tree.find root within with
  | .ok (place, .directory) =>
    let below := tree.entries.filterMap fun (p, _) =>
      if FileTree.isBelow place p ∧ ((p.getLast?).getD "").endsWith ".j2" then
        some (within.join { parts := p.drop place.length }).text
      else none
    below.mergeSort notAfter
  | _ => []

def libraryBelow (tree : FileTree) (root : Place) : List Template :=
  tree.entries.filterMap fun (place, entry) =>
    match entry with
    | .file content =>
      if FileTree.isBelow root place then
        match Text.Utf8.decode content with
        | .ok cs =>
          parse? (Path.text { parts := place.drop root.length }) (Text.unifyNewlines cs)
        | .error _ => none
      else none
    | .directory => none

end Formwork.Template
