import Formwork.Template.Basic

/-!
Templates of the application around the components: modules, shell and style sheets, and the files
of a workspace that is written directly. A brace that is text is written as `\x7b` or `\x7d`.
-/

namespace Formwork.Template.App

def imports : Piece := .each "statement" (.named "imports") [slot "statement", line ""]

def route : List Piece :=
  [.text "  ", .value (.written (.named "route")), .value (.unlessLast ","), line ""]

/-- The module with the routing table. -/
def routingModule : Template where
  name := "app/app-routing.module.ts.j2"
  pieces :=
    [line "import \x7b NgModule \x7d from '@angular/core';",
      line "import \x7b RouterModule, Routes \x7d from '@angular/router';",
      line "",
      imports,
      line "",
      line "const routes: Routes = [",
      .each "route" (.named "routes") route,
      line "];",
      line "",
      line "@NgModule(\x7b",
      line "  imports: [RouterModule.forRoot(routes)],",
      line "  exports: [RouterModule]",
      line "\x7d)",
      line "export class AppRoutingModule \x7b \x7d"]

/-- The module of the application. -/
def appModule : Template where
  name := "app/app.module.ts.j2"
  pieces :=
    [line "import \x7b NgModule \x7d from '@angular/core';",
      line "import \x7b FormsModule, ReactiveFormsModule \x7d from '@angular/forms';",
      line "import \x7b BrowserModule \x7d from '@angular/platform-browser';",
      line "",
      line "import \x7b AppRoutingModule \x7d from './app-routing.module';",
      line "import \x7b AppComponent \x7d from './app.component';",
      imports,
      line "",
      line "@NgModule(\x7b",
      line "  declarations: [",
      line "    AppComponent,",
      .each "class_name" (.named "declarations") [.text "    ", slot "class_name", line ","],
      line "  ],",
      line "  imports: [",
      line "    BrowserModule,",
      line "    FormsModule,",
      line "    ReactiveFormsModule,",
      line "    AppRoutingModule",
      line "  ],",
      line "  providers: [],",
      line "  bootstrap: [AppComponent]",
      line "\x7d)",
      line "export class AppModule \x7b \x7d"]

def link : List Piece :=
  [.text "  <a class=\"", slot "link_class", .text "\" routerLink=\"/", slotOf "link" "path",
    .text "\" routerLinkActive=\"active\">", slotOf "link" "label", line "</a>"]

def navigation : Template where
  name := "app/nav.html.j2"
  pieces :=
    [.text "<nav class=\"", slot "menu_class", line "\">",
      .each "link" (.named "links") link,
      line "</nav>"]

def footer : Template where
  name := "app/footer.html.j2"
  pieces :=
    [.text "<footer class=\"", slot "footer_class", .text "\">", slot "footer_content",
      line "</footer>"]

def shell : Template where
  name := "app/app.component.html.j2"
  pieces :=
    [slot "nav", line "",
      .text "<main class=\"", slot "content_class", line "\">",
      line "  <router-outlet></router-outlet>",
      line "</main>",
      .whenTrue (.named "footer") [slot "footer", line ""]]

/-- The rules of the custom menu. -/
def menuRules : List Piece :=
  [.text ".custom-", slot "menu_type", line "-menu \x7b",
    line "  display: flex;",
    .text "  flex-direction: ", .value (.whenWord (.named "menu_type") "vertical" "column" "row"),
    line ";",
    .text "  gap: ", .value (.whenWord (.named "menu_type") "vertical" "10px" "20px"), line ";",
    line "\x7d",
    line "",
    .text ".custom-", slot "menu_type", line "-menu a \x7b",
    line "  text-decoration: none;",
    line "  color: inherit;",
    line "\x7d",
    line "",
    line ".custom-footer \x7b",
    line "  margin-top: 2rem;",
    line "\x7d"]

def shellStyle : Template where
  name := "app/app.component.css.j2"
  pieces :=
    [.whenFalse (.named "use_bootstrap") menuRules]

def globalStyle : Template where
  name := "app/styles.css.j2"
  pieces :=
    [line "/* Global styles */",
      .whenTrue (.named "use_bootstrap") [line "@import 'bootstrap/dist/css/bootstrap.min.css';"]]

/-- The page that the application is loaded into. -/
def indexPage : Template where
  name := "skeleton/index.html.j2"
  pieces :=
    [line "<!doctype html>",
      line "<html lang=\"en\">",
      line "<head>",
      line "  <meta charset=\"utf-8\">",
      .text "  <title>", slot "project_title", line "</title>",
      line "  <base href=\"/\">",
      line "  <meta name=\"viewport\" content=\"width=device-width, initial-scale=1\">",
      line "</head>",
      line "<body>",
      line "  <app-root></app-root>",
      line "</body>",
      line "</html>"]

def mainModule : Template where
  name := "skeleton/main.ts.j2"
  pieces :=
    [.text "import \x7b platformBrowserDynamic \x7d from ",
      line "'@angular/platform-browser-dynamic';",
      line "",
      line "import \x7b AppModule \x7d from './app/app.module';",
      line "",
      line "platformBrowserDynamic().bootstrapModule(AppModule)",
      line "  .catch((err) => console.error(err));"]

/-- The component of the shell. -/
def rootComponent : Template where
  name := "skeleton/app.component.ts.j2"
  pieces :=
    [line "import \x7b Component \x7d from '@angular/core';",
      line "",
      line "@Component(\x7b",
      line "  selector: 'app-root',",
      line "  templateUrl: './app.component.html',",
      line "  styleUrls: ['./app.component.css']",
      line "\x7d)",
      line "export class AppComponent \x7b",
      .text "  title = ", literalSlot "project_name", line ";",
      line "\x7d"]

end Formwork.Template.App
