import Formwork.Artifact
import Formwork.Json.Encode
import Formwork.Layout
import Formwork.Naming
import Formwork.Schema.Reading
import Formwork.Template.App

/-!
The workspace around the generated files. Either the Angular command line tool makes it, which
takes commands to run before the files are written, or its files are written like the others.
-/

namespace Formwork

/-- How the workspace comes to exist. The package of the tool is what was read for it. -/
inductive Skeleton
  | commands (package : Schema.Reading String) (installsDependencies : Bool)
  | files
  | none
  deriving DecidableEq, Repr, Inhabited

namespace Skeleton

/-- The package of the Angular command line tool. -/
def standardPackage : String := "@angular/cli@17"

/-- The workspace is made by commands unless something else is asked for. -/
def standard : Skeleton := .commands (.value standardPackage) true

def name : Skeleton → String
  | .commands .. => "cli"
  | .files => "direct"
  | .none => "none"

def create (package project : String) : Invocation where
  argv :=
    ["npx", "--yes", package, "new", project, "--skip-install", "--skip-git", "--routing",
      "--style=css", "--standalone=false", "--defaults"]
  purpose := .skeleton
  description := "Create Angular workspace '" ++ project ++ "'"

def installDependencies (project : String) : Invocation where
  argv := ["npm", "install"]
  directory := project
  purpose := .dependencies
  description := "Install workspace dependencies"

def installBootstrap (project : String) : Invocation where
  argv := ["npm", "install", "bootstrap"]
  directory := project
  purpose := .styling
  description := "Install Bootstrap styling"

def installations (installs : Bool) (project : String) (layout : Layout) : List Invocation :=
  (if installs then [installDependencies project] else []) ++
    (if layout.useBootstrap then [installBootstrap project] else [])

/-- The commands that make the workspace, in the order in which they run. The package has to be a
text, since it is the third word of a command. -/
def invocations (s : Skeleton) (spec : Specification) (layout : Layout) :
    Schema.Reading (List Invocation) :=
  match s with
  | .commands package installs =>
    let project := spec.projectName
    ((package.under "2").under "argv").map fun package =>
      create package project :: installations installs project layout
  | .files | .none => .value []

def angularVersion : Value := .str "^17.3.0"

def dependencies (useBootstrap : Bool) : List (String × Value) :=
  (["animations", "common", "compiler", "core", "forms", "platform-browser",
      "platform-browser-dynamic", "router"].map fun package =>
    ("@angular/" ++ package, angularVersion)) ++
  [("rxjs", .str "~7.8.0"), ("tslib", .str "^2.3.0"), ("zone.js", .str "~0.14.3")] ++
  (if useBootstrap then [("bootstrap", .str "^5.3.3")] else [])

def packageFile (project : String) (layout : Layout) : Value :=
  .object
    [("name", .str project), ("version", .str "0.0.0"), ("private", .bool true),
      ("scripts",
        .object [("ng", .str "ng"), ("start", .str "ng serve"), ("build", .str "ng build")]),
      ("dependencies", .object (dependencies layout.useBootstrap)),
      ("devDependencies",
        .object
          [("@angular-devkit/build-angular", angularVersion), ("@angular/cli", angularVersion),
            ("@angular/compiler-cli", angularVersion), ("typescript", .str "~5.4.2")])]

def buildTarget (project : String) : Value :=
  .object
    [("builder", .str "@angular-devkit/build-angular:browser"),
      ("options",
        .object
          [("outputPath", .str ("dist/" ++ project)), ("index", .str "src/index.html"),
            ("main", .str "src/main.ts"), ("polyfills", .list [.str "zone.js"]),
            ("tsConfig", .str "tsconfig.app.json"), ("styles", .list [.str "src/styles.css"])])]

def serveTarget (project : String) : Value :=
  .object
    [("builder", .str "@angular-devkit/build-angular:dev-server"),
      ("options", .object [("buildTarget", .str (project ++ ":build"))])]

/-- The description of the workspace, which holds a single project. -/
def workspaceFile (project : String) : Value :=
  .object
    [("$schema", .str "./node_modules/@angular/cli/lib/config/schema.json"),
      ("version", .int 1), ("newProjectRoot", .str "projects"),
      ("projects",
        .object
          [(project,
            .object
              [("projectType", .str "application"), ("root", .str ""),
                ("sourceRoot", .str "src"), ("prefix", .str "app"),
                ("architect",
                  .object [("build", buildTarget project), ("serve", serveTarget project)])])])]

def compilerFile : Value :=
  .object
    [("compileOnSave", .bool false),
      ("compilerOptions",
        .object
          [("outDir", .str "./dist/out-tsc"), ("strict", .bool true), ("sourceMap", .bool true),
            ("declaration", .bool false), ("experimentalDecorators", .bool true),
            ("moduleResolution", .str "node"), ("importHelpers", .bool true),
            ("target", .str "ES2022"), ("module", .str "ES2022"),
            ("useDefineForClassFields", .bool false),
            ("lib", .list [.str "ES2022", .str "dom"])])]

def applicationCompilerFile : Value :=
  .object
    [("extends", .str "./tsconfig.json"),
      ("compilerOptions", .object [("outDir", .str "./out-tsc/app"), ("types", .list [])]),
      ("files", .list [.str "src/main.ts"]), ("include", .list [.str "src/**/*.d.ts"])]

def valueFile (path : String) (v : Value) : Artifact :=
  ⟨path, Json.encode Json.workspaceStyle v ++ "\n"⟩

def title (project : String) : String :=
  Naming.labelForm (String.ofList (project.toList.map fun c => if c = '-' then ' ' else c))

def scope (project : String) : Template.Scope :=
  .ofMembers [("project_name", .str project), ("project_title", .str (title project))]

def workspace (project : String) (layout : Layout) : Except Template.Error (List Artifact) := do
  let index ← Template.App.indexPage.render (scope project)
  let main ← Template.App.mainModule.render (scope project)
  let root ← Template.App.rootComponent.render (scope project)
  return [valueFile "package.json" (packageFile project layout),
    valueFile "angular.json" (workspaceFile project),
    valueFile "tsconfig.json" compilerFile,
    valueFile "tsconfig.app.json" applicationCompilerFile,
    ⟨"src/index.html", index⟩, ⟨"src/main.ts", main⟩, ⟨"src/app/app.component.ts", root⟩]

def artifacts (s : Skeleton) (spec : Specification) (layout : Layout) :
    Except Template.Error (List Artifact) :=
  match s with
  | .files => workspace spec.projectName layout
  | .commands .. | .none => .ok []

end Skeleton

end Formwork
