import Formwork.Proofs.Application.StyleSheet
import Formwork.Proofs.Generation.Pages

/-!
The files of an application as what they declare and how it is written. A module imports classes,
a routing module has routes, the module of the application has declarations, and the shell has
links; each kind of file is a record with its text beside it. The pages that a generation renders
are the texts of such records, with one import, route, declaration and link for each component.
-/

namespace Formwork.Application

open Template

def lines (texts : List String) : String := String.join (texts.map (· ++ "\n"))

@[simp] theorem lines_nil : lines [] = "" := rfl

@[simp] theorem lines_cons (t : String) (ts : List String) :
    lines (t :: ts) = t ++ "\n" ++ lines ts := by
  rw [lines, List.map_cons, String.join_cons]
  rfl

theorem join_map_line {α : Type} (text : α → String) (as : List α) :
    String.join (as.map fun a => text a ++ "\n") = lines (as.map text) := by
  rw [lines, List.map_map]
  rfl

/-! ### Import declarations -/

/-- An import declaration: the names that it binds and the module that they come from. -/
structure Import where
  names : List String
  source : String
  deriving DecidableEq, Repr

def Import.text (i : Import) : String :=
  "import \x7b " ++ ", ".intercalate i.names ++ " \x7d from '" ++ i.source ++ "';"

def importLines (imports : List Import) : String := lines (imports.map Import.text)

def Import.ofComponent (c : Component) : Import where
  names := [Naming.classForm c.name ++ "Component"]
  source := "./" ++ Naming.pathForm c.name ++ "/" ++ Naming.pathForm c.name ++ ".component"

/-! ### The files -/

/-- A module with a routing table. The imports are those besides the framework's own. -/
structure RoutingModule where
  imports : List Import
  routes : List Route

def RoutingModule.frame : List Import :=
  [⟨["NgModule"], "@angular/core"⟩, ⟨["RouterModule", "Routes"], "@angular/router"⟩]

def RoutingModule.text (m : RoutingModule) : String :=
  importLines RoutingModule.frame ++ lines [""] ++ importLines m.imports ++
  lines ["", "const routes: Routes = ["] ++
  ",\n".intercalate (m.routes.map fun r => "  " ++ r.declaration) ++
  lines
    ["", "];", "", "@NgModule(\x7b", "  imports: [RouterModule.forRoot(routes)],",
      "  exports: [RouterModule]", "\x7d)", "export class AppRoutingModule \x7b \x7d"]

/-- The module of an application. The imports and the declarations are those besides the
framework's and the shell's. -/
structure RootModule where
  imports : List Import
  declarations : List String

def RootModule.frame : List Import :=
  [⟨["NgModule"], "@angular/core"⟩, ⟨["FormsModule", "ReactiveFormsModule"], "@angular/forms"⟩,
    ⟨["BrowserModule"], "@angular/platform-browser"⟩]

def RootModule.shell : List Import :=
  [⟨["AppRoutingModule"], "./app-routing.module"⟩, ⟨["AppComponent"], "./app.component"⟩]

def RootModule.declarationLine (className : String) : String := "    " ++ className ++ ","

def RootModule.text (m : RootModule) : String :=
  importLines RootModule.frame ++ lines [""] ++ importLines RootModule.shell ++
  importLines m.imports ++
  lines ["", "@NgModule(\x7b", "  declarations: [", "    AppComponent,"] ++
  lines (m.declarations.map RootModule.declarationLine) ++
  lines
    ["  ],", "  imports: [", "    BrowserModule,", "    FormsModule,", "    ReactiveFormsModule,",
      "    AppRoutingModule", "  ],", "  providers: [],", "  bootstrap: [AppComponent]", "\x7d)",
      "export class AppModule \x7b \x7d"]

structure Menu where
  menuClass : String
  linkClass : String
  links : List AppShell.Link

/-- What a link leads to: its route, from the root of the application. -/
def linkTarget (l : AppShell.Link) : String := "/" ++ l.path

def Menu.linkText (m : Menu) (l : AppShell.Link) : String :=
  "  <a class=\"" ++ m.linkClass ++ "\" routerLink=\"" ++ linkTarget l ++
    "\" routerLinkActive=\"active\">" ++ l.label ++ "</a>"

def Menu.text (m : Menu) : String :=
  lines ["<nav class=\"" ++ m.menuClass ++ "\">"] ++ lines (m.links.map m.linkText) ++ "</nav>"

/-- The shell: the menu, the place of the page, and the footer, which may be empty. -/
structure Shell where
  menu : Menu
  contentClass : String
  footer : String

def Shell.text (s : Shell) : String :=
  s.menu.text ++
  lines
    ["", "<main class=\"" ++ s.contentClass ++ "\">", "  <router-outlet></router-outlet>",
      "</main>"] ++
  (if s.footer = "" then "" else lines [s.footer])

/-- The module of a component: the class that it exports, the element that shows the class, the
name of its other files, and the body of the class. -/
structure ComponentModule where
  className : String
  selector : String
  slug : String
  body : String

def ComponentModule.frame : List Import :=
  [⟨["Component"], "@angular/core"⟩, ⟨["FormBuilder", "FormGroup", "Validators"], "@angular/forms"⟩]

def ComponentModule.text (m : ComponentModule) : String :=
  importLines ComponentModule.frame ++
  lines
    ["", "@Component(\x7b", "  selector: '" ++ m.selector ++ "',",
      "  templateUrl: './" ++ m.slug ++ ".component.html',",
      "  styleUrls: ['./" ++ m.slug ++ ".component.css']", "\x7d)",
      "export class " ++ m.className ++ " \x7b"] ++
  m.body

/-! ### The pages are the texts -/

theorem importStatement_eq (c : Component) :
    Route.importStatement c = (Import.ofComponent c).text := by
  have hsource : " \x7d from './" = " \x7d from '" ++ "./" := rfl
  have hend : ".component';" = ".component" ++ "';" := rfl
  delta Route.importStatement Import.text
  simp only [Import.ofComponent, Naming.componentClass, String.intercalate_singleton, hsource, hend,
    String.append_assoc]

example : Route.importStatement { name := "Login" } =
    "import \x7b LoginComponent \x7d from './login/login.component';" := by decide

theorem renderAll_imports {s : Scope} {components : List Component}
    (h : s.names.lookup "imports" =
      some (.value (.list ((Route.imports components).map .str)))) (rest : List Piece) :
    renderAll s (Template.App.imports :: rest) =
      preceded (importLines (components.map Import.ofComponent)) (renderAll s rest) := by
  have hitems : (Datum.value (.list ((Route.imports components).map .str))).items =
      .ok (components.map fun c => .value (.str (Route.importStatement c))) := by
    simp only [Datum.items, Route.imports, List.map_map]
    rfl
  have hrounds := mapM_rounds s "statement" [slot "statement", line ""]
    (fun c : Component => .value (.str (Route.importStatement c)))
    (fun c => (Import.ofComponent c).text ++ "\n")
    (fun c isLast => by
      rw [renderAll_slot rfl, renderAll_line, renderAll_nil]
      simp only [preceded_ok, importStatement_eq,
        String.empty_append, String.append_empty]) components
  rw [Template.App.imports, renderAll_each (eval_named h) hitems hrounds, importLines, lines,
    List.map_map, List.map_map]
  rfl

/-- The routing module imports the components and routes to them, in their order, and redirects
to the first one. -/
theorem routingModule_eq (first : Component) (rest : List Component) :
    Route.module (first :: rest) = .ok (RoutingModule.text
      { imports := (first :: rest).map Import.ofComponent
        routes := (first :: rest).map Route.ofComponent ++ Route.redirects first }) := by
  let routes := (first :: rest).map Route.ofComponent ++ Route.redirects first
  let s : Scope :=
    { names :=
        [("imports", .value (.list ((Route.imports (first :: rest)).map .str))),
          ("routes", .entries (routes.map Route.declaration))] }
  obtain ⟨texts, hrounds, hjoin⟩ := mapM_rounds_separated s "route" "," Template.App.route
    (fun r : Route => .entry r.declaration) (fun r => "  " ++ r.declaration)
    (fun r isLast => by
      have hentry : (Expr.written (.named "route")).eval
          (s.round "route" (.entry r.declaration) isLast) =
            .ok (.value (.str r.declaration)) := rfl
      have hcomma : (Expr.unlessLast ",").eval (s.round "route" (.entry r.declaration) isLast) =
          .ok (.value (.str (if isLast then "" else ","))) := rfl
      rw [Template.App.route, renderAll_text, renderAll_value hentry, renderAll_value hcomma,
        renderAll_line, renderAll_nil]
      simp only [preceded_ok, String.append_assoc,
        String.empty_append, String.append_empty]) routes (by simp [routes])
  have hitems : (Datum.entries (routes.map Route.declaration)).items =
      .ok (routes.map fun r => .entry r.declaration) := by
    rw [Datum.items, List.map_map]
    rfl
  have hframe : importLines RoutingModule.frame =
      lines ["import \x7b NgModule \x7d from '@angular/core';",
        "import \x7b RouterModule, Routes \x7d from '@angular/router';"] := rfl
  have hpage : renderAll s Template.App.routingModule.pieces = .ok (RoutingModule.text
      { imports := (first :: rest).map Import.ofComponent, routes }) := by
    rw [Template.App.routingModule]
    simp only [renderAll_line]
    rw [renderAll_imports rfl, renderAll_line, renderAll_line,
      renderAll_each (eval_named rfl) hitems hrounds]
    simp only [renderAll_line, renderAll_nil, preceded_ok, hjoin, RoutingModule.text, hframe,
      lines_cons, lines_nil, String.append_assoc, String.empty_append, String.append_empty]
    rfl
  rw [Route.module]
  exact congrArg (Except.mapError GenerationError.template) hpage

theorem rootModule_eq (components : List Component) :
    Generator.applicationModule components = .ok (RootModule.text
      { imports := components.map Import.ofComponent
        declarations := components.map fun c => Naming.classForm c.name ++ "Component" }) := by
  let s : Scope := .ofMembers
    [("imports", .list ((Route.imports components).map .str)),
      ("declarations", .list (components.map fun c => .str (Naming.componentClass c.name)))]
  have hrounds := mapM_rounds s "class_name" [.text "    ", slot "class_name", line ","]
    (fun c : Component => .value (.str (Naming.componentClass c.name)))
    (fun c => RootModule.declarationLine (Naming.classForm c.name ++ "Component") ++ "\n")
    (fun c isLast => by
      rw [renderAll_text, renderAll_slot rfl, renderAll_line, renderAll_nil]
      simp only [preceded_ok, Naming.componentClass,
        RootModule.declarationLine, String.append_assoc, String.append_empty]) components
  have hitems : (Datum.value (.list (components.map fun c =>
      .str (Naming.componentClass c.name)))).items =
        .ok (components.map fun c => .value (.str (Naming.componentClass c.name))) := by
    rw [Datum.items, List.map_map]
    rfl
  have hframe : importLines RootModule.frame =
      lines ["import \x7b NgModule \x7d from '@angular/core';",
        "import \x7b FormsModule, ReactiveFormsModule \x7d from '@angular/forms';",
        "import \x7b BrowserModule \x7d from '@angular/platform-browser';"] := rfl
  have hshell : importLines RootModule.shell =
      lines ["import \x7b AppRoutingModule \x7d from './app-routing.module';",
        "import \x7b AppComponent \x7d from './app.component';"] := rfl
  have hpage : renderAll s Template.App.appModule.pieces = .ok (RootModule.text
      { imports := components.map Import.ofComponent
        declarations := components.map fun c => Naming.classForm c.name ++ "Component" }) := by
    rw [Template.App.appModule]
    simp only [renderAll_line]
    rw [renderAll_imports rfl]
    simp only [renderAll_line]
    rw [renderAll_each (eval_named rfl) hitems hrounds, join_map_line]
    simp only [renderAll_line, renderAll_nil, preceded_ok, RootModule.text, hframe, hshell,
      List.map_map, lines_cons, lines_nil, String.append_assoc, String.empty_append,
      String.append_empty]
    rfl
  exact congrArg (Except.mapError GenerationError.template) hpage

/-! ### The shell -/

theorem trimEndChars_append_singleton (p : Char → Bool) (cs : List Char) (c : Char) :
    Text.trimEndChars p (cs ++ [c]) = if p c then Text.trimEndChars p cs else cs ++ [c] := by
  simp only [Text.trimEndChars, List.reverse_append, List.reverse_singleton, List.singleton_append,
    List.dropWhile_cons]
  split <;> simp

/-- A line feed after a text that ends in another character is the only one that is dropped. -/
theorem dropFinalNewlines_line (s t : String) {front : List Char} {c : Char}
    (ht : t.toList = front ++ [c]) (hc : c ≠ '\n') :
    Text.dropFinalNewlines (s ++ (t ++ "\n")) = s ++ t := by
  have hline : (s ++ (t ++ "\n")).toList = (s.toList ++ front ++ [c]) ++ ['\n'] := by
    simp [String.toList_append, ht]
  rw [Text.dropFinalNewlines, hline, trimEndChars_append_singleton, if_pos (by simp),
    trimEndChars_append_singleton, if_neg (by simpa using hc), List.append_assoc, ← ht,
    ← String.toList_append, String.ofList_toList]

def Menu.ofComponents (components : List Component) (orientation : Orientation)
    (layout : Layout) : Menu where
  menuClass := AppShell.menuClass orientation layout.useBootstrap
  linkClass := if layout.useBootstrap then "nav-link" else "custom-menu-link"
  links := components.map fun c => ⟨c.menuLabel, Naming.pathForm c.name⟩

theorem menu_eq {components : List Component} (hne : components ≠ []) (orientation : Orientation)
    (layout : Layout) :
    AppShell.menu components orientation layout =
      .ok (Menu.ofComponents components orientation layout).text := by
  let m := Menu.ofComponents components orientation layout
  let s : Scope := .ofMembers
    [("menu_class", .str m.menuClass), ("link_class", .str m.linkClass),
      ("links", .list ((AppShell.links components).map AppShell.linkEntry))]
  have hrounds := mapM_rounds s "link" Template.App.link
    (fun l : AppShell.Link => .value (AppShell.linkEntry l)) (fun l => m.linkText l ++ "\n")
    (fun l isLast => by
      rw [Template.App.link, renderAll_text, renderAll_slot (t := m.linkClass) rfl,
        renderAll_text, renderAll_slotOf (t := l.path) rfl rfl, renderAll_text,
        renderAll_slotOf (t := l.label) rfl rfl, renderAll_line, renderAll_nil]
      have hlead : "\" routerLink=\"/" = "\" routerLink=\"" ++ "/" := rfl
      delta Menu.linkText linkTarget
      simp only [preceded_ok, hlead, String.append_assoc,
        String.append_empty]) (AppShell.links components)
  have hitems : (Datum.value (.list ((AppShell.links components).map AppShell.linkEntry))).items =
      .ok ((AppShell.links components).map fun l => .value (AppShell.linkEntry l)) := by
    rw [Datum.items, List.map_map]
    rfl
  have hpage : renderAll s Template.App.navigation.pieces = .ok (m.text ++ "\n") := by
    rw [Template.App.navigation, renderAll_text,
      renderAll_slot (t := m.menuClass) rfl, renderAll_line,
      renderAll_each (eval_named rfl) hitems hrounds, join_map_line, renderAll_line, renderAll_nil]
    simp only [preceded_ok, Menu.text, lines_cons, lines_nil,
      String.append_assoc, String.append_empty]
    rfl
  -- the last line feed of the template is dropped, and no other character
  have htrim : Text.dropFinalNewlines (m.text ++ "\n") = m.text := by
    have hnav : "</nav>".toList = ['<', '/', 'n', 'a', 'v'] ++ ['>'] := rfl
    rw [Menu.text, String.append_assoc]
    exact dropFinalNewlines_line _ "</nav>" hnav (by decide)
  have hfilled : components.isEmpty = false := by simpa using hne
  rw [AppShell.menu, hfilled]
  show (do
    let text ← (renderAll s Template.App.navigation.pieces).mapError GenerationError.template
    return Text.dropFinalNewlines text) = _
  rw [hpage]
  show Except.ok (Text.dropFinalNewlines (m.text ++ "\n")) = _
  rw [htrim]

theorem shell_eq {components : List Component} (hne : components ≠ []) (orientation : Orientation)
    (content : Option String) (layout : Layout) :
    ∃ footer, AppShell.markup components orientation content layout = .ok (Shell.text
      { menu := .ofComponents components orientation layout
        contentClass := if layout.useBootstrap then "container mt-3" else "custom-content"
        footer }) := by
  obtain ⟨footer, hfooter⟩ := AppShell.footer_total content layout
  let sh : Shell :=
    { menu := .ofComponents components orientation layout
      contentClass := if layout.useBootstrap then "container mt-3" else "custom-content"
      footer }
  let s : Scope := .ofMembers
    [("nav", .str sh.menu.text), ("footer", .str footer), ("content_class", .str sh.contentClass)]
  have hbody : renderAll s [slot "footer", line ""] = .ok (footer ++ "\n") := by
    rw [renderAll_slot (t := footer) rfl, renderAll_line, renderAll_nil]
    rfl
  have hpage : renderAll s Template.App.shell.pieces = .ok sh.text := by
    rw [Template.App.shell, renderAll_slot (t := sh.menu.text) rfl, renderAll_line,
      renderAll_text, renderAll_slot (t := sh.contentClass) rfl, renderAll_line,
      renderAll_line, renderAll_line,
      renderAll_whenTrue (d := .value (.str footer)) (eval_named rfl) _ _ (fun _ => hbody),
      renderAll_nil]
    have hshown : (if (Datum.value (.str footer)).toValue.truthy then footer ++ "\n" else "") =
        if footer = "" then "" else lines [footer] := by
      by_cases h : footer = ""
      · rw [h]
        rfl
      · rw [if_pos (by simpa [Datum.toValue, Value.truthy] using h), if_neg h]
        simp only [lines_cons, lines_nil, String.append_empty]
    rw [hshown]
    simp only [preceded_ok, Shell.text, lines_cons,
      lines_nil, String.append_assoc, String.empty_append, String.append_empty, sh]
  refine ⟨footer, ?_⟩
  rw [AppShell.markup, menu_eq hne, hfooter]
  exact congrArg (Except.mapError GenerationError.template) hpage

/-! ### The module of a component -/

theorem renderAll_moduleHeader (c : Component) (controls : List Value) :
    renderAll (c.moduleScope controls) (Template.Pages.classModule.pieces.take 17) =
      .ok (ComponentModule.text
        { className := Naming.classForm c.name ++ "Component"
          selector := "app-" ++ Naming.pathForm c.name
          slug := Naming.pathForm c.name
          body := "" }) := by
  let m : ComponentModule :=
    { className := Naming.classForm c.name ++ "Component"
      selector := "app-" ++ Naming.pathForm c.name
      slug := Naming.pathForm c.name
      body := "" }
  have hempty : m.body = "" := rfl
  have hframe : importLines ComponentModule.frame =
      lines ["import \x7b Component \x7d from '@angular/core';",
        "import \x7b FormBuilder, FormGroup, Validators \x7d from '@angular/forms';"] := rfl
  show renderAll (c.moduleScope controls) (Template.Pages.classModule.pieces.take 17) = .ok m.text
  rw [Template.Pages.classModule]
  simp only [List.take]
  rw [renderAll_line, renderAll_line, renderAll_line, renderAll_line, renderAll_text,
    renderAll_slot (t := m.selector) rfl, renderAll_line, renderAll_text,
    renderAll_slot (t := m.slug) rfl, renderAll_line, renderAll_text,
    renderAll_slot (t := m.slug) rfl, renderAll_line, renderAll_line,
    renderAll_text, renderAll_slot (t := m.className) rfl, renderAll_line,
    renderAll_nil]
  simp only [preceded_ok, ComponentModule.text, hframe, hempty,
    lines_cons, lines_nil, String.append_assoc, String.empty_append, String.append_empty]

theorem componentModule_of_body {c : Component} {controls : List Value} {short : Bool}
    {body : String}
    (hbody : renderAll (c.moduleScope controls) (Template.Pages.classModule.pieces.drop 17) =
      Number.limited tooLong short body) :
    Template.Pages.classModule.render (c.moduleScope controls) =
      Number.limited tooLong short (ComponentModule.text
        { className := Naming.classForm c.name ++ "Component"
          selector := "app-" ++ Naming.pathForm c.name
          slug := Naming.pathForm c.name
          body }) := by
  rw [Template.render,
    ← List.take_append_drop 17 Template.Pages.classModule.pieces,
    renderAll_append _ _ _ (renderAll_moduleHeader c controls), hbody, preceded_limited]
  simp only [ComponentModule.text, String.append_assoc, String.empty_append]

/-! ### The style sheet of a component -/

def gridRules (columns : Int) : List StyleSheet.Rule :=
  [⟨".custom-layout", [("display", "flex"), ("flex-wrap", "wrap"), ("gap", "1rem")]⟩,
    ⟨".custom-col-" ++ toString columns,
      [("flex", "0 0 calc(100% / " ++ toString columns ++ " - 1rem)")]⟩,
    ⟨".custom-actions", [("flex", "0 0 100%")]⟩, ⟨".text-danger", [("color", "#dc3545")]⟩]

def styleScope (layout : Layout) : Scope :=
  .ofMembers [("use_bootstrap", .bool layout.useBootstrap), ("column_layout", .int layout.columns)]

set_option maxRecDepth 8000 in
theorem renderAll_gridRules (layout : Layout) :
    renderAll (styleScope layout) Pages.gridRules =
      Number.limited tooLong (Number.isShort layout.columns)
        (StyleSheet.text (gridRules layout.columns)) := by
  have hscope : (styleScope layout).names.lookup "column_layout" =
      some (.value (.int layout.columns)) := rfl
  have hcolumns : (slot "column_layout").render (styleScope layout) =
      Number.limited tooLong (Number.isShort layout.columns) (toString layout.columns) :=
    render_value_limited (eval_named hscope)
  rw [Pages.gridRules]
  simp only [renderAll_line, renderAll_text, renderAll_cons_limited hcolumns, renderAll_nil,
    preceded_ok, preceded_limited, Number.limited_bind_ok, Number.limited_bind_limited,
    Bool.and_self]
  refine congrArg (Number.limited tooLong _) (String.toList_injective ?_)
  simp only [StyleSheet.text, gridRules, StyleSheet.Rule.text, StyleSheet.declarationText,
    String.toList_append, String.toList_join, List.map_cons, List.map_nil, List.flatMap_cons,
    List.flatMap_nil, List.append_assoc]
  rfl

theorem style_eq (layout : Layout) :
    Component.style layout = Number.limited tooLong layout.isWritable
      (if layout.useBootstrap then "" else StyleSheet.text (gridRules layout.columns)) := by
  have hrules := renderAll_gridRules layout
  obtain ⟨useBootstrap, columns⟩ := layout
  cases useBootstrap with
  | true => rfl
  | false =>
      have hsheet : (Piece.whenFalse (.named "use_bootstrap") Pages.gridRules).render
          (styleScope ⟨false, columns⟩) = _ := hrules
      rw [Component.style, Template.render, Pages.style]
      refine (renderAll_cons_limited hsheet []).trans ?_
      simp only [renderAll_nil, preceded_ok, String.append_empty]
      exact Number.limited_bind_ok tooLong (Number.isShort columns) _ id

end Formwork.Application
